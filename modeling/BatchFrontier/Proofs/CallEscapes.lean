import BatchFrontier.CommandLine.Run
import BatchFrontier.Proofs.BuildChecks
import BatchFrontier.Proofs.StateEscapes

/-!
# How building a call escapes

A call is built from a document in a file. What cannot be opened or is no document is expected, and
so is what lacks a part; a document that is no record or is nested too deep is not. The parts have
to be of the right kinds: roots that stand for bytes, a proof that is a text. After that nothing
escapes, whatever the manager refuses.
-/

namespace BatchFrontier

/-! ## Documents -/

namespace Files

theorem readText_expected (ds : Directories) (fs : Files) (path : Text) :
    FailsOnly Fault.isExpected (fs.readText ds path) := by
  have hread : FailsOnly Fault.isExpected (fs.read ds path) := by
    refine (nameOf_expected path).bind fun name _ => ?_
    split
    · exact .error rfl
    · exact .ok _
    · exact .error rfl
    · exact .error rfl
    · exact .error rfl
    · split
      · exact .ok _
      · split
        · exact .ok _
        · exact .error rfl
      · exact .error rfl
  refine hread.bind fun bs _ => ?_
  split
  · exact .ok _
  · exact .error rfl

end Files

/-- Reading JSON escapes where a document is nested too deep. -/
theorem Json.read_escapes_iff (cs : List Char) (bound : Option Nat) :
    Escapes (Json.read cs bound) ↔ Json.read cs bound = .error .tooNested := by
  have hfault : ∀ f, Json.read cs bound = .error f → f.isExpected = true ∨ f = .tooNested := by
    intro f hf
    unfold Json.read at hf
    simp only at hf
    split at hf
    · exact .inl (Except.error.inj hf ▸ rfl)
    · split at hf
      · cases hf
      · next stop _ =>
        rw [← Except.error.inj hf]
        cases stop with
        | tooNested => exact .inr rfl
        | _ => exact .inl rfl
  constructor
  · rintro ⟨f, hf, hescapes⟩
    rcases hfault f hf with hexpected | rfl
    · cases hescapes.symm.trans hexpected
    · exact hf
  · intro h
    exact ⟨_, h, rfl⟩

/-- Printing a document never escapes. -/
theorem Json.print_expected (l : Json.Layout) (v : Value) :
    FailsOnly Fault.isExpected (Json.print l v) := by
  unfold Json.print
  split
  · exact .ok _
  · exact .error rfl

namespace CommandLine

/-- The document in a file. -/
def readDocument (w : Surroundings) : Value → Except Fault Value
  | .text path => do
    let cs ← w.files.readText w.directories path
    Json.read cs (some w.nesting)
  | v => .error (.mistyped v.kind)

theorem readInputs_eq (w : Surroundings) (path : Value) :
    readInputs w path = readDocument w path >>= proofInputs := by
  cases path with
  | text t => simp only [readInputs, readDocument, bind_assoc]
  | _ => rfl

/-- What is examined of the file with the proof and the roots: whether it holds a document, and
whether the document is a record with all of its parts. -/
def inputExaminations (w : Surroundings) (path : Value) : List Examination :=
  [⟨∃ document, readDocument w path = .ok document, (∀ t, path ≠ .text t) ∨
      ∃ t cs, path = .text t ∧ w.files.readText w.directories t = .ok cs ∧
        Json.read cs (some w.nesting) = .error .tooNested⟩,
    ⟨∃ inputs, readInputs w path = .ok inputs,
      ∃ document, readDocument w path = .ok document ∧ Chain.Form.isRecord document = false⟩]

theorem readDocument_escapes_iff (w : Surroundings) (path : Value) :
    Escapes (readDocument w path) ↔ (∀ t, path ≠ .text t) ∨
      ∃ t cs, path = .text t ∧ w.files.readText w.directories t = .ok cs ∧
        Json.read cs (some w.nesting) = .error .tooNested := by
  cases path with
  | text t =>
    have hread : readDocument w (.text t) =
        w.files.readText w.directories t >>= fun cs => Json.read cs (some w.nesting) := rfl
    have hopened := (Files.readText_expected w.directories w.files t).not_escapes
    rw [hread, escapes_bind_iff]
    simp only [hopened, false_or, Json.read_escapes_iff]
    constructor
    · rintro ⟨cs, hcs, hnested⟩
      exact .inr ⟨t, cs, rfl, hcs, hnested⟩
    · rintro (hkind | ⟨t', cs, htext, hcs, hnested⟩)
      · exact absurd rfl (hkind t)
      · obtain rfl := Value.text.inj htext
        exact ⟨cs, hcs, hnested⟩
  | _ => exact iff_of_true ⟨_, rfl, rfl⟩ (.inl fun t h => by cases h)

/-- The parts of a document escape if it is no record. -/
theorem proofInputs_escapes_iff (document : Value) :
    Escapes (proofInputs document) ↔ Chain.Form.isRecord document = false := by
  have hread : proofInputs document = document.named "proof" >>= fun proof =>
      document.named "newLocalExitRoot" >>= fun exitRoot =>
        document.named "newStateRoot" >>= fun stateRoot => .ok ⟨proof, exitRoot, stateRoot⟩ := rfl
  rw [hread]
  simp only [escapes_bind_iff, Value.named_escapes_iff, not_escapes_ok, and_false, exists_false,
    or_false]
  tauto

theorem readInputs_consists (w : Surroundings) (path : Value) :
    ConsistsOf (readInputs w path) (inputExaminations w path) where
  escapes_iff := by
    rw [readInputs_eq]
    refine escapes_bind_iff_firstEscapes (readDocument_escapes_iff w path) Iff.rfl
      fun document hdocument => ?_
    rw [proofInputs_escapes_iff, firstEscapes_cons_iff, hdocument]
    simp
  passes_iff := by
    rw [inputExaminations, readInputs_eq]
    simp only [List.forall_mem_cons, List.not_mem_nil, false_implies, implies_true, and_true]
    refine ⟨fun h => ⟨?_, h⟩, And.right⟩
    obtain ⟨inputs, hinputs⟩ := h
    cases hdocument : readDocument w path with
    | error f =>
      rw [hdocument] at hinputs
      cases hinputs
    | ok document => exact ⟨document, rfl⟩

end CommandLine

/-! ## Calls -/

theorem Root.ofValue_escapes_iff (name : Text) (v : Value) :
    Escapes (Root.ofValue name v).result ↔ v.isByteLike = false := by
  have hraw : Escapes (rawBytes name v) ↔ v.isByteLike = false := by
    unfold rawBytes
    split
    · next t =>
      refine iff_of_false ?_ (by simp [Value.isByteLike])
      split
      · rw [Value.toBytes_escapes_iff]
        simp [Value.isByteLike]
      · simp [Fault.isExpected]
    · exact Value.toBytes_escapes_iff v
  have hword (bs : List UInt8) : ¬ Escapes (ofBytes name bs).result := by
    unfold ofBytes
    split
    · simp [Fault.isExpected]
    · simp only
      split
      · exact not_escapes_ok _
      · exact not_escapes_ok _
  have hread : (Root.ofValue name v).result =
      rawBytes name v >>= fun bs => (ofBytes name bs).result := Traced.bind_result _ _
  rw [hread, escapes_bind_iff, hraw]
  simp only [hword, and_false, exists_false, or_false]

theorem Proof.ofValue_escapes_iff (v : Value) :
    Escapes (Proof.ofValue v) ↔ ∀ t, v ≠ .text t := by
  have hwords (n i : Nat) (t : Text) : FailsOnly Fault.isExpected (Proof.readWords n i t) := by
    induction n generalizing i t with
    | zero => exact .ok _
    | succ n ih =>
      unfold Proof.readWords
      simp only
      split
      · exact .error rfl
      · split
        · exact .ok _
        · next f hf => exact .error (ih _ _ f hf)
  cases v with
  | text t =>
    refine iff_of_false (FailsOnly.not_escapes ?_) fun h => h t rfl
    unfold Proof.ofValue Proof.ofText
    simp only
    split
    · exact .error rfl
    · split
      · exact .ok _
      · next f hf => exact .error (hwords _ _ _ f hf)
  | _ => exact iff_of_true ⟨_, rfl, rfl⟩ fun t h => by cases h

namespace Builder

theorem authorize_escapes_iff (chain : Value) {key : Except Fault Address}
    (hkey : ∀ f, key = .error f → f.isStop = false) :
    Escapes (authorize chain key) ↔ Report.isNumber chain = false := by
  rw [← Value.isNonpositive_escapes_iff]
  cases hsign : chain.isNonpositive with
  | error f =>
    have hkind : f = .mistyped chain.kind := by
      unfold Value.isNonpositive at hsign
      split at hsign
      · cases hsign
      · split at hsign
        · cases hsign
        · exact (Except.error.inj hsign).symm
    have hauthorize : authorize chain key = .error (.mistyped chain.kind) := by
      simp [authorize, Authorization.create, Authorization.isRefusal, hsign, hkind, bind,
        Except.bind]
    rw [hauthorize, hkind, escapes_error_iff, escapes_error_iff]
  | ok isNonpositive =>
    refine iff_of_false (FailsOnly.not_escapes ?_) (not_escapes_ok _)
    cases isNonpositive with
    | true =>
      have hcreate : Authorization.create chain key =
          .error (.showing .chainNotPositive chain) := by
        simp [Authorization.create, hsign, bind, Except.bind]
      rw [authorize, hcreate]
      refine .error ?_
      split
      · rfl
      · exact Fault.isExpected_showing rfl
    | false =>
      cases hdrawn : key with
      | ok address =>
        have hauthorize : authorize chain (.ok address) = .ok ⟨address, chain⟩ := by
          simp [authorize, Authorization.create, hsign, bind, Except.bind]
        rw [hauthorize]
        exact .ok _
      | error cause =>
        have hauthorize : authorize chain (.error cause) =
            .error (.noAuthorization (.noKey cause)) := by
          simp [authorize, Authorization.create, Authorization.isRefusal, hsign, bind, Except.bind,
            hkey cause hdrawn]
        rw [hauthorize]
        exact .error rfl

/-- Recognising a revert makes nothing escape. -/
theorem recogniseRevert_expected {α : Type} {x : Traced α}
    (h : FailsOnly Fault.isExpected x.result) :
    FailsOnly Fault.isExpected (recogniseRevert x).result := by
  rw [recogniseRevert_eq]
  cases hx : x.result with
  | ok a => exact .ok _
  | error f =>
    refine .error ?_
    unfold settled
    split
    · exact h f hx
    · unfold Revert.recognise?
      cases (Revert.Evidence.ofFault f).reason? with
      | none => exact h f hx
      | some reason => rfl

/-- What is examined of the chain and the key, and of the roots and the proof, before a call is
shaped. -/
def examinations (chain : Value) (key : Except Fault Address) (inputs : ProofInputs) :
    List Examination :=
  [⟨∃ auth, authorize chain key = .ok auth, Report.isNumber chain = false⟩,
    ⟨∃ root, (Root.ofValue "newLocalExitRoot" inputs.exitRoot).result = .ok root,
      inputs.exitRoot.isByteLike = false⟩,
    ⟨∃ root, (Root.ofValue "newStateRoot" inputs.stateRoot).result = .ok root,
      inputs.stateRoot.isByteLike = false⟩,
    ⟨∃ proof, Proof.ofValue inputs.proof = .ok proof, ∀ t, inputs.proof ≠ .text t⟩]

/-- Shaping a transaction at an address fails with what is expected, and then there is a call of
it. -/
theorem shape_expected (address : Address) (rollup chain : Value) (v : Verification)
    (auth : Authorization) (exitRoot stateRoot : Word) (proof : Proof) :
    FailsOnly Fault.isExpected
        (shape ⟨.ofAddress address, rollup, chain⟩ v auth exitRoot stateRoot proof).result ∧
      ∀ transaction, (shape ⟨.ofAddress address, rollup, chain⟩ v auth exitRoot stateRoot
        proof).result = .ok transaction → ∃ call, callOf transaction = .ok call := by
  have hdata (args : List Value) :
      FailsOnly Fault.isExpected (Chain.verifyBatches.callData args) := by
    unfold Chain.Function.callData
    split
    · exact .ok _
    · exact .showing rfl rfl
  have hshape : (shape ⟨.ofAddress address, rollup, chain⟩ v auth exitRoot stateRoot proof).result =
      Address.ofValue v.beneficiary >>= fun beneficiary =>
        Chain.verifyBatches.callData
          (arguments rollup v.last v.new exitRoot stateRoot beneficiary proof) >>= fun data =>
        .ok (.record [("data", .text (Hex.writeMarked data)), ("to", .text address.text)]) := by
    simp only [shape, Manager.ofAddress, Traced.bind_result, Traced.lift_result, Traced.pure_result]
    rfl
  rw [hshape]
  constructor
  · exact (Address.ofValue_expected _).bind fun _ _ => (hdata _).bind fun _ _ => .ok _
  · intro transaction h
    cases hbeneficiary : Address.ofValue v.beneficiary with
    | error f =>
      rw [hbeneficiary] at h
      cases h
    | ok beneficiary =>
      simp only [hbeneficiary, bind, Except.bind] at h
      split at h
      · cases h
      · next data _ =>
        rw [← Except.ok.inj h]
        exact ⟨_, callOf_shaped address data⟩

/-- Building a call for the manager at an address escapes as the first of the examinations does. -/
theorem build_escapes_iff (address : Address) (rollup chain : Value) {key : Except Fault Address}
    (hkey : ∀ f, key = .error f → f.isStop = false) (v : Verification) :
    Escapes (build ⟨.ofAddress address, rollup, chain⟩ key v).result ↔
      FirstEscapes (examinations chain key v.inputs) := by
  simp only [build, Traced.bind_result, Traced.lift_result, readProof_eq]
  refine escapes_bind_iff_firstEscapes (authorize_escapes_iff chain hkey) Iff.rfl fun auth _ => ?_
  refine escapes_bind_iff_firstEscapes (Root.ofValue_escapes_iff _ _) Iff.rfl fun exitRoot _ => ?_
  refine escapes_bind_iff_firstEscapes (Root.ofValue_escapes_iff _ _) Iff.rfl fun stateRoot _ => ?_
  refine escapes_bind_iff_firstEscapes (Proof.ofValue_escapes_iff _) Iff.rfl fun proof _ => ?_
  obtain ⟨hexpected, hcall⟩ := shape_expected address rollup chain v auth exitRoot stateRoot proof
  refine iff_of_false ?_ not_firstEscapes_nil
  have hlast : FailsOnly Fault.isExpected
      ((recogniseRevert (shape ⟨.ofAddress address, rollup, chain⟩ v auth exitRoot stateRoot
        proof)).result >>= callOf) := by
    refine (recogniseRevert_expected hexpected).bind fun transaction htransaction => ?_
    rw [recogniseRevert_eq] at htransaction
    cases hshape : (shape ⟨.ofAddress address, rollup, chain⟩ v auth exitRoot stateRoot
        proof).result with
    | error f =>
      rw [hshape] at htransaction
      cases htransaction
    | ok shaped =>
      rw [hshape] at htransaction
      obtain rfl := Except.ok.inj htransaction
      obtain ⟨call, hcall⟩ := hcall shaped hshape
      rw [hcall]
      exact .ok _
  exact hlast.not_escapes

end Builder

namespace CommandLine

/-- What is examined to build a call. -/
def callExaminations (w : Surroundings) (s : Settings) (path : Value) : List Examination :=
  inputExaminations w path ++
    match readInputs w path with
    | .ok inputs => openings w.node s ++ Builder.examinations s.l1Chain w.key inputs
    | .error _ => []

theorem callDocument_escapes_iff {w : Surroundings} (hw : w.Ordinary) (s : Settings)
    (path last new beneficiary : Value) :
    Escapes (callDocument w s path last new beneficiary).result ↔
      FirstEscapes (callExaminations w s path) := by
  rw [callDocument, Traced.bind_result]
  refine (readInputs_consists w path).bind fun inputs hinputs => ?_
  rw [hinputs, Traced.bind_result]
  refine (openChain_consists hw s).bind fun c _ => ?_
  simp only [Traced.bind_result]
  refine Iff.trans ?_ (Builder.build_escapes_iff c.manager s.rollup s.l1Chain hw.key
    ⟨last, new, inputs, beneficiary⟩)
  refine escapes_bind_iff.trans (or_iff_left ?_)
  rintro ⟨call, -, h⟩
  exact not_escapes_ok _ h

end CommandLine

end BatchFrontier
