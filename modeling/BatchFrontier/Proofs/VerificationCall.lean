import BatchFrontier.Calldata
import BatchFrontier.Proofs.ProofDigits
import BatchFrontier.Proofs.RootReading
import BatchFrontier.Proofs.WordLayout

/-!
# What a built call says

The call that verifies batches is built from a proof, two roots, an address and four numbers, each
read in its own way. Its data are the selector of the manager's function and one place for each
argument, and whoever reads them finds the arguments again. Neither the chain nor the throwaway
sender leaves a trace in the call.
-/

namespace BatchFrontier

namespace Abi

/-- A selector takes four bytes. -/
theorem length_selector (signature : String) : (selector signature).length = 4 := by
  simp only [selector, List.length_take, Keccak.length_digest]
  rfl

end Abi

/-- The data of a call take the bytes of the selector and of the types of the arguments. -/
theorem Chain.Function.length_callData {f : Chain.Function} {arguments : List Value}
    {data : List UInt8} (h : f.callData? arguments = some data) :
    data.length = 4 + Abi.totalSize f.inputs := by
  obtain ⟨bs, hbs, rfl⟩ := Option.map_eq_some_iff.mp h
  rw [List.length_append, Abi.length_selector, Abi.length_encodeAll hbs]

/-- What a verification is read as: two batch numbers, two roots, a proof and an address. -/
structure Verification.Reads (v : Verification) (last new : Int) (exitRoot stateRoot : Word)
    (proof : Proof) (beneficiary : Address) : Prop where
  last : v.last = .integer last
  new : v.new = .integer new
  exitRoot : (Root.ofValue "newLocalExitRoot" v.inputs.exitRoot).result = .ok exitRoot
  stateRoot : (Root.ofValue "newStateRoot" v.inputs.stateRoot).result = .ok stateRoot
  proof : Proof.ofValue v.inputs.proof = .ok proof
  beneficiary : Address.ofValue v.beneficiary = .ok beneficiary

/-- What a call says to the manager at an address. The last three parts of the data are told by
their places as well: they end with the twenty bytes of an address and with 24 words. -/
structure UnsignedCall.Says (call : UnsignedCall) (manager : Address) (rollup last new : Int)
    (exitRoot stateRoot : Word) (proof : Proof) (beneficiary : Address) : Prop where
  recipient : call.recipient = .text manager.text
  size : call.data.length = 4 + 32 * 31
  selector : call.data.take 4 = (Keccak.digest (Utf8.encode
    ("verifyBatchesTrustedAggregator(uint32,uint64,uint64,uint64,bytes32,bytes32,address," ++
      "bytes32[24])").toList)).take 4
  arguments : Abi.decodeAll
    [.uint 32, .uint 64, .uint 64, .uint 64, .bytes32, .bytes32, .address, .words 24]
    (call.data.drop 4) =
      some [.integer rollup, .integer 0, .integer last, .integer new, .bytes exitRoot.bytes,
        .bytes stateRoot.bytes, .text beneficiary.text,
        .list (proof.words.map fun w => .bytes w.bytes)]
  beneficiary : (call.data.drop (4 + 32 * 6 + 12)).take 20 = beneficiary.bytes
  proof : call.data.drop (4 + 32 * 7) = proof.words.flatMap Word.bytes

namespace Builder

/-- The six words before the address in the data of a call. -/
def leadingWords (rollup last new : Int) (exitRoot stateRoot : Word) : List UInt8 :=
  (Word.ofNat rollup.toNat).bytes ++ ((Word.ofNat pendingState).bytes ++
    ((Word.ofNat last.toNat).bytes ++ ((Word.ofNat new.toNat).bytes ++
      (exitRoot.bytes ++ stateRoot.bytes))))

/-- The 31 words in the data of a call. -/
def argumentBytes (rollup last new : Int) (exitRoot stateRoot : Word) (proof : Proof)
    (beneficiary : Address) : List UInt8 :=
  leadingWords rollup last new exitRoot stateRoot ++
    (List.replicate 12 0 ++ (beneficiary.bytes ++ proof.words.flatMap Word.bytes))

theorem length_leadingWords (rollup last new : Int) (exitRoot stateRoot : Word) :
    (leadingWords rollup last new exitRoot stateRoot).length = 32 * 6 := by
  simp only [leadingWords, List.length_append, Word.size]

section

variable {rollup last new : Int} (exitRoot stateRoot : Word) (proof : Proof) (beneficiary : Address)

/-- The arguments of a call are written one after the other in their order. -/
theorem encodeAll_arguments (hrollup : 0 ≤ rollup ∧ rollup < 2 ^ 32)
    (hlast : 0 ≤ last ∧ last < 2 ^ 64) (hnew : 0 ≤ new ∧ new < 2 ^ 64) :
    Abi.encodeAll Chain.verifyBatches.inputs (arguments (.integer rollup) (.integer last)
      (.integer new) exitRoot stateRoot beneficiary proof) =
        some (argumentBytes rollup last new exitRoot stateRoot proof beneficiary) := by
  have hpending : (0 : Int) ≤ (pendingState : Int) ∧ (pendingState : Int) < 2 ^ 64 := by decide
  have hproof : Abi.encode (.words 24) (.list (proof.words.map fun w => .bytes w.bytes)) =
      some (proof.words.flatMap Word.bytes) := Abi.encode_words proof.count
  simp only [Chain.verifyBatches, arguments, Abi.encodeAll, Abi.encode_integer hrollup,
    Abi.encode_integer hpending, Abi.encode_integer hlast, Abi.encode_integer hnew,
    Abi.encode_word, Abi.encode_address, hproof, Option.bind_eq_bind, Option.bind_some,
    Option.pure_def]
  simp only [argumentBytes, leadingWords, List.append_assoc, List.append_nil, Int.toNat_natCast]

/-- The arguments of a call are read back from their words. -/
theorem decodeAll_argumentBytes (hrollup : 0 ≤ rollup ∧ rollup < 2 ^ 32)
    (hlast : 0 ≤ last ∧ last < 2 ^ 64) (hnew : 0 ≤ new ∧ new < 2 ^ 64) :
    Abi.decodeAll Chain.verifyBatches.inputs
      (argumentBytes rollup last new exitRoot stateRoot proof beneficiary) =
        some (arguments (.integer rollup) (.integer last) (.integer new) exitRoot stateRoot
          beneficiary proof) := by
  have hbounded : ∀ k ∈ Chain.verifyBatches.inputs, k.IsBounded := by
    simp [Chain.verifyBatches, Abi.Kind.IsBounded]
  have hwritten := encodeAll_arguments exitRoot stateRoot proof beneficiary hrollup hlast hnew
  have hread := Abi.decodeAll_encodeAll hbounded hwritten []
  rw [List.append_nil] at hread
  rw [hread]
  simp only [Chain.verifyBatches, arguments, List.zipWith_cons_cons, List.zipWith_nil_left,
    Abi.canonical_address]
  rfl

/-- The call that the manager at an address shapes from arguments that fit. -/
def callOfParts (manager : Address) (rollup last new : Int) (exitRoot stateRoot : Word)
    (proof : Proof) (beneficiary : Address) : UnsignedCall :=
  ⟨.text manager.text, Abi.selector Chain.verifyBatches.signature ++
    argumentBytes rollup last new exitRoot stateRoot proof beneficiary⟩

/-- A call of parts that fit says what they are. -/
theorem says_callOfParts (manager : Address) (hrollup : 0 ≤ rollup ∧ rollup < 2 ^ 32)
    (hlast : 0 ≤ last ∧ last < 2 ^ 64) (hnew : 0 ≤ new ∧ new < 2 ^ 64) :
    (callOfParts manager rollup last new exitRoot stateRoot proof beneficiary).Says manager
      rollup last new exitRoot stateRoot proof beneficiary := by
  have hselector := Abi.length_selector Chain.verifyBatches.signature
  have hhead : (Abi.selector Chain.verifyBatches.signature ++
      leadingWords rollup last new exitRoot stateRoot ++ List.replicate 12 0).length =
        4 + 32 * 6 + 12 := by
    simp only [List.length_append, hselector, length_leadingWords, List.length_replicate]
  have hdata : (callOfParts manager rollup last new exitRoot stateRoot proof beneficiary).data =
      (Abi.selector Chain.verifyBatches.signature ++
        leadingWords rollup last new exitRoot stateRoot ++ List.replicate 12 0) ++
          (beneficiary.bytes ++ proof.words.flatMap Word.bytes) := by
    simp only [callOfParts, argumentBytes, List.append_assoc]
  refine ⟨rfl, ?_, ?_, ?_, ?_, ?_⟩
  · simp only [hdata, List.length_append, hhead, beneficiary.size, proof.length_bytes]
  · rw [callOfParts, List.take_left' hselector]
    rfl
  · rw [callOfParts, List.drop_left' hselector]
    exact decodeAll_argumentBytes exitRoot stateRoot proof beneficiary hrollup hlast hnew
  · rw [hdata, List.drop_left' hhead, List.take_left' beneficiary.size]
  · rw [hdata, ← List.append_assoc, List.drop_left']
    simp only [List.length_append, hhead, beneficiary.size]

/-- The call of a shaped transaction has the address and the data that were put into it. -/
theorem callOf_shaped (address : Address) (data : List UInt8) :
    callOf (.record [("data", .text (Hex.writeMarked data)), ("to", .text address.text)]) =
      .ok ⟨.text address.text, data⟩ := by
  have hbytes : (Value.text (Hex.writeMarked data)).toBytes = .ok data :=
    Value.bytesOfText_writeMarked data
  have hname : (Text.ofString "data" == Text.ofString "to") = false := by decide
  simp [callOf, Value.named, Value.field?, hname, hbytes, bind, Except.bind, pure, Except.pure]

/-- Parts that fit and are read from a verification make the call, on any chain and for any
sender. -/
theorem build_eq_callOfParts (manager sender : Address) {chain : Int} {v : Verification}
    (hrollup : 0 ≤ rollup ∧ rollup < 2 ^ 32) (hlast : 0 ≤ last ∧ last < 2 ^ 64)
    (hnew : 0 ≤ new ∧ new < 2 ^ 64) (hchain : 0 < chain)
    (hreads : v.Reads last new exitRoot stateRoot proof beneficiary) :
    ((Builder.mk (.ofAddress manager) (.integer rollup) (.integer chain)).build (.ok sender)
      v).result = .ok (callOfParts manager rollup last new exitRoot stateRoot proof
        beneficiary) := by
  have hauth : authorize (.integer chain) (.ok sender) = .ok ⟨sender, .integer chain⟩ := by
    have hpositive : ¬chain ≤ 0 := by omega
    simp [authorize, Authorization.create, Value.isNonpositive, Value.integer?, hpositive,
      bind, Except.bind]
  have hproof : readProof v.inputs.proof = pure proof := by
    simp only [readProof, hreads.proof]
  have hdata : Chain.verifyBatches.callData (arguments (.integer rollup) v.last v.new exitRoot
      stateRoot beneficiary proof) = .ok (Abi.selector Chain.verifyBatches.signature ++
        argumentBytes rollup last new exitRoot stateRoot proof beneficiary) := by
    simp only [hreads.last, hreads.new, Chain.Function.callData, Chain.Function.callData?,
      encodeAll_arguments exitRoot stateRoot proof beneficiary hrollup hlast hnew,
      Option.map_some]
  simp only [build, Traced.bind_result, Traced.lift_result, hauth, hreads.exitRoot,
    hreads.stateRoot, hproof, Traced.pure_result, Except.bind, recogniseRevert, shape,
    Manager.ofAddress, Traced.resume_result, hreads.beneficiary, hdata]
  exact callOf_shaped manager _

end

/-- A verification whose parts are accepted makes a call that says what they are: the numbers, the
first words of the roots, the address and the words of the proof, which are the bytes that its
digits write. The call is the same for every chain, every sender and every spelling of the parts. -/
theorem build_says_parts (manager beneficiary : Address) (rollup last new : Int)
    (exitRoot stateRoot : Word) (proof : Proof) (hrollup : 0 ≤ rollup ∧ rollup < 2 ^ 32)
    (hlast : 0 ≤ last ∧ last < 2 ^ 64) (hnew : 0 ≤ new ∧ new < 2 ^ 64) :
    ∃ call : UnsignedCall,
      call.Says manager rollup last new exitRoot stateRoot proof beneficiary ∧
      ∀ (chain : Int) (sender : Address) (v : Verification), 0 < chain →
        v.Reads last new exitRoot stateRoot proof beneficiary →
          ((Builder.mk (.ofAddress manager) (.integer rollup) (.integer chain)).build (.ok sender)
            v).result = .ok call ∧
          (∃ raw, Root.rawBytes "newLocalExitRoot" v.inputs.exitRoot = .ok raw ∧
            32 ≤ raw.length ∧ exitRoot.bytes = raw.take 32) ∧
          (∃ raw, Root.rawBytes "newStateRoot" v.inputs.stateRoot = .ok raw ∧
            32 ≤ raw.length ∧ stateRoot.bytes = raw.take 32) ∧
          ∃ text, v.inputs.proof = .text text ∧
            Hex.read? (Hex.dropMark text.chars) =
              some (call.data.drop (call.data.length - 768)) := by
  have hsays := says_callOfParts exitRoot stateRoot proof beneficiary manager hrollup hlast hnew
  refine ⟨_, hsays, fun chain sender v hchain hreads => ?_⟩
  refine ⟨build_eq_callOfParts exitRoot stateRoot proof beneficiary manager sender hrollup hlast
    hnew hchain hreads, Root.bytes_of_ofValue hreads.exitRoot,
    Root.bytes_of_ofValue hreads.stateRoot, ?_⟩
  have hproof := hreads.proof
  unfold Proof.ofValue at hproof
  split at hproof
  · next text htext =>
    refine ⟨text, htext, ?_⟩
    rw [Proof.read?_of_ofText hproof, hsays.size, ← hsays.proof]
  · cases hproof

/-- A proof whose words count up from one. -/
def countingProof : Proof := ⟨(List.range' 1 24).map Word.ofNat, rfl⟩

/-- An address whose bytes count up from zero. -/
def countingAddress : Address := ⟨(List.range 20).map UInt8.ofNat, rfl⟩

/-- A verification at the ends of the ranges. The first root is a byte too long, and the address
stands between blanks. -/
def wideVerification : Verification where
  last := .integer 0
  new := .integer (2 ^ 64 - 1)
  inputs :=
    ⟨.text (Hex.writeMarked (countingProof.words.flatMap Word.bytes)), .bytes (List.replicate 33 9),
      .bytes (List.replicate 32 8)⟩
  beneficiary := .text " 0X000102030405060708090A0b0c0d0e0f10111213\n"

theorem build_says_wideVerification :
    (0 : Int) < 1 ∧
    wideVerification.Reads 0 (2 ^ 64 - 1) ⟨List.replicate 32 9, rfl⟩ ⟨List.replicate 32 8, rfl⟩
      countingProof countingAddress ∧
    ∃ call : UnsignedCall,
      call.Says countingAddress (2 ^ 32 - 1) 0 (2 ^ 64 - 1) ⟨List.replicate 32 9, rfl⟩
        ⟨List.replicate 32 8, rfl⟩ countingProof countingAddress ∧
      ((Builder.mk (.ofAddress countingAddress) (.integer (2 ^ 32 - 1)) (.integer 1)).build
        (.ok countingAddress) wideVerification).result = .ok call := by
  have hreads : wideVerification.Reads 0 (2 ^ 64 - 1) ⟨List.replicate 32 9, rfl⟩
      ⟨List.replicate 32 8, rfl⟩ countingProof countingAddress :=
    ⟨rfl, rfl, rfl, rfl, countingProof.ofText_writeMarked, rfl⟩
  obtain ⟨call, hsays, hbuild⟩ := build_says_parts countingAddress countingAddress
    (2 ^ 32 - 1) 0 (2 ^ 64 - 1) ⟨List.replicate 32 9, rfl⟩ ⟨List.replicate 32 8, rfl⟩ countingProof
    (by decide) (by decide) (by decide)
  exact ⟨by decide, hreads, call, hsays, (hbuild 1 countingAddress wideVerification (by decide)
    hreads).1⟩

end Builder

end BatchFrontier
