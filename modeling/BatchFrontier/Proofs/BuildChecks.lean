import BatchFrontier.Proofs.ProviderOrder
import BatchFrontier.Proofs.Runs
import BatchFrontier.Proofs.VerificationCall

/-!
# The checks of a build

A build has five checks: the chain with the key, the exit root, the state root, the proof and the
address that receives the reward. The first check that fails decides what the build fails with, the
checks up to it decide what is logged, and the contract is called after all of them or not at all.
A builder remembers nothing, so a build that fails a check leaves no trace in the builds after it.
-/

namespace BatchFrontier

namespace Root

/-- The warning that a root gives rise to if it is too long. -/
def cutLines (name : Text) (v : Value) : List Event :=
  match rawBytes name v with
  | .ok raw =>
    if size < raw.length then [.logged .warning .calldata (cutWarning name raw.length)] else []
  | .error _ => []

/-- Reading a root logs a warning if the root is too long, and nothing else. -/
theorem ofValue_events (name : Text) (v : Value) : (ofValue name v).events = cutLines name v := by
  unfold cutLines
  cases hraw : rawBytes name v with
  | error f => rw [ofValue_of_rawBytes_error hraw]
  | ok raw =>
    rw [ofValue_of_rawBytes hraw]
    rcases Nat.lt_or_ge raw.length size with hshort | hlong
    · rw [ofBytes_of_lt hshort]
      exact (if_neg (Nat.lt_asymm hshort)).symm
    · obtain ⟨w, -, hread⟩ := ofBytes_of_le name hlong
      rw [hread]

end Root

namespace Builder

/-- The error that a proof gives rise to if it is a text and no proof. -/
def proofLines (proof : Value) : List Event :=
  match Proof.ofValue proof with
  | .ok _ | .error (.mistyped _) => []
  | .error f => [.logged .error .calldata (proofLine f proof)]

/-- Reading a proof logs an error if it is a text and no proof, and nothing else. -/
theorem readProof_eq (proof : Value) :
    readProof proof = ⟨proofLines proof, Proof.ofValue proof⟩ := by
  unfold readProof proofLines
  split
  · next p hp => rw [hp]; rfl
  · next kind hkind => rw [hkind]; rfl
  · next f hmistyped hf =>
    rw [hf]
    cases f with
    | mistyped kind => exact absurd rfl (hmistyped kind)
    | _ => rfl

/-! ## One check after the other -/

section

variable {b : Builder} {key : Except Fault Address} {v : Verification} {f : Fault}
variable {auth : Authorization} {exitRoot stateRoot : Word} {proof : Proof}

theorem build_of_authorize_error (h : authorize b.chain key = .error f) :
    b.build key v = ⟨[], .error f⟩ := by
  rw [build, h]
  rfl

variable (hauth : authorize b.chain key = .ok auth)

include hauth

theorem build_of_exitRoot_error
    (h : (Root.ofValue "newLocalExitRoot" v.inputs.exitRoot).result = .error f) :
    b.build key v = ⟨Root.cutLines "newLocalExitRoot" v.inputs.exitRoot, .error f⟩ := by
  rw [build, hauth, Traced.bind_of_ok _ (Traced.lift_result _), Traced.bind_of_error _ h,
    Root.ofValue_events]
  rfl

variable (hexit : (Root.ofValue "newLocalExitRoot" v.inputs.exitRoot).result = .ok exitRoot)

include hexit

theorem build_of_stateRoot_error
    (h : (Root.ofValue "newStateRoot" v.inputs.stateRoot).result = .error f) :
    b.build key v = ⟨Root.cutLines "newLocalExitRoot" v.inputs.exitRoot ++
      Root.cutLines "newStateRoot" v.inputs.stateRoot, .error f⟩ := by
  rw [build, hauth, Traced.bind_of_ok _ (Traced.lift_result _), Traced.bind_of_ok _ hexit,
    Traced.bind_of_error _ h, Root.ofValue_events, Root.ofValue_events]
  rfl

variable (hstate : (Root.ofValue "newStateRoot" v.inputs.stateRoot).result = .ok stateRoot)

include hstate

theorem build_of_proof_error (h : Proof.ofValue v.inputs.proof = .error f) :
    b.build key v = ⟨Root.cutLines "newLocalExitRoot" v.inputs.exitRoot ++
      (Root.cutLines "newStateRoot" v.inputs.stateRoot ++ proofLines v.inputs.proof),
        .error f⟩ := by
  rw [build, hauth, Traced.bind_of_ok _ (Traced.lift_result _), Traced.bind_of_ok _ hexit,
    Traced.bind_of_ok _ hstate, readProof_eq, h, Traced.bind_of_error _ rfl, Root.ofValue_events,
    Root.ofValue_events]
  rfl

/-- Once four checks are passed, the transaction is shaped and made a call. -/
theorem build_of_proof (h : Proof.ofValue v.inputs.proof = .ok proof) :
    b.build key v = ⟨Root.cutLines "newLocalExitRoot" v.inputs.exitRoot ++
      (Root.cutLines "newStateRoot" v.inputs.stateRoot ++
        (recogniseRevert (b.shape v auth exitRoot stateRoot proof)).events),
      (recogniseRevert (b.shape v auth exitRoot stateRoot proof)).result.bind callOf⟩ := by
  have hlines : proofLines v.inputs.proof = [] := by rw [proofLines, h]
  rw [build, hauth, Traced.bind_of_ok _ (Traced.lift_result _), Traced.bind_of_ok _ hexit,
    Traced.bind_of_ok _ hstate, readProof_eq, h, Traced.bind_of_ok _ rfl, Root.ofValue_events,
    Root.ofValue_events, hlines]
  cases hshape : (recogniseRevert (b.shape v auth exitRoot stateRoot proof)).result with
  | error g =>
    rw [Traced.bind_of_error _ hshape]
    rfl
  | ok transaction =>
    rw [Traced.bind_of_ok _ hshape]
    simp [Except.bind]

end

/-- What a fault of the last step becomes: a request to stop stays one, and a revert is
recognised. -/
def settled (f : Fault) : Fault := if f.isStop then f else (Revert.recognise? f).getD f

/-- Recognising a revert does nothing and changes nothing but a fault. -/
theorem recogniseRevert_eq {α : Type} (x : Traced α) :
    recogniseRevert x = ⟨x.events, x.result.mapError settled⟩ := by
  unfold recogniseRevert Traced.resume settled
  cases hx : x.result with
  | ok a => simp [Except.mapError]
  | error f => simp [Except.mapError]

/-! ## The checks in their order -/

/-- A check of a build: how it comes out, and what is logged when it is reached. -/
structure Check where
  outcome : Except Fault Unit
  lines : List Event

/-- The checks of a build in their order. -/
def checks (chain : Value) (key : Except Fault Address) (v : Verification) : List Check :=
  [⟨(authorize chain key).map fun _ => (), []⟩,
    ⟨(Root.ofValue "newLocalExitRoot" v.inputs.exitRoot).result.map fun _ => (),
      Root.cutLines "newLocalExitRoot" v.inputs.exitRoot⟩,
    ⟨(Root.ofValue "newStateRoot" v.inputs.stateRoot).result.map fun _ => (),
      Root.cutLines "newStateRoot" v.inputs.stateRoot⟩,
    ⟨(Proof.ofValue v.inputs.proof).map fun _ => (), proofLines v.inputs.proof⟩,
    ⟨(Address.ofValue v.beneficiary).map fun _ => (), []⟩]

theorem exists_of_passed {α : Type} {x : Except Fault α} (h : x.map (fun _ => ()) = .ok ()) :
    ∃ a, x = .ok a := by
  cases x with
  | error f => cases h
  | ok a => exact ⟨a, rfl⟩

theorem eq_error_of_failed {α : Type} {x : Except Fault α} {f : Fault}
    (h : x.map (fun _ => ()) = .error f) : x = .error f := by
  cases x with
  | error g => exact congrArg _ (Except.error.inj h)
  | ok a => cases h

/-- That a fault is that of the first check that fails, which is the check at an index. -/
def FirstFault (cs : List Check) (i : Nat) (f : Fault) : Prop :=
  (∃ c, cs[i]? = some c ∧ c.outcome = .error f) ∧ ∀ c ∈ cs.take i, c.outcome = .ok ()

/-- Either all checks are passed, or one is the first that fails. -/
theorem passed_or_firstFault (cs : List Check) :
    (∀ c ∈ cs, c.outcome = .ok ()) ∨ ∃ i f, FirstFault cs i f := by
  induction cs with
  | nil => exact .inl (by simp)
  | cons c cs ih =>
    cases houtcome : c.outcome with
    | error f => exact .inr ⟨0, f, ⟨c, rfl, houtcome⟩, by simp⟩
    | ok u =>
      rcases ih with hpassed | ⟨i, f, ⟨c', hc', hf⟩, hbefore⟩
      · refine .inl fun c' hc' => ?_
        rcases List.mem_cons.mp hc' with rfl | hc'
        · exact houtcome
        · exact hpassed c' hc'
      · refine .inr ⟨i + 1, f, ⟨c', by simpa using hc', hf⟩, fun c'' hc'' => ?_⟩
        rw [List.take_succ_cons] at hc''
        rcases List.mem_cons.mp hc'' with rfl | hc''
        · exact houtcome
        · exact hbefore c'' hc''

/-- The parts of a verification, with the sender that is drawn for it. -/
structure Parts where
  sender : Address
  exitRoot : Word
  stateRoot : Word
  proof : Proof
  beneficiary : Address

/-- That a verification passes all checks with some parts. -/
structure Accepts (chain : Value) (key : Except Fault Address) (v : Verification) (p : Parts) :
    Prop where
  authorized : authorize chain key = .ok ⟨p.sender, chain⟩
  exitRoot : (Root.ofValue "newLocalExitRoot" v.inputs.exitRoot).result = .ok p.exitRoot
  stateRoot : (Root.ofValue "newStateRoot" v.inputs.stateRoot).result = .ok p.stateRoot
  proof : Proof.ofValue v.inputs.proof = .ok p.proof
  beneficiary : Address.ofValue v.beneficiary = .ok p.beneficiary

section

variable {chain : Value} {key : Except Fault Address} {v : Verification}

/-- Who is authorized has the drawn key, for the chain that was asked for. -/
theorem exists_sender_of_authorize {auth : Authorization} (h : authorize chain key = .ok auth) :
    ∃ sender, auth = ⟨sender, chain⟩ := by
  have hcreate : Authorization.create chain key = .ok auth := by
    unfold authorize at h
    split at h
    · cases h
    · next a ha => rw [ha, Except.ok.inj h]
  unfold Authorization.create at hcreate
  cases hsign : chain.isNonpositive with
  | error f =>
    rw [hsign] at hcreate
    cases hcreate
  | ok nonpositive =>
    rw [hsign] at hcreate
    cases nonpositive with
    | true => cases hcreate
    | false =>
      cases key with
      | error cause => cases hcreate
      | ok sender => exact ⟨sender, (Except.ok.inj hcreate).symm⟩

/-- Whatever the address is, the other parts are those of four passed checks. -/
theorem exists_parts_of_passed (h : ∀ c ∈ (checks chain key v).take 4, c.outcome = .ok ()) :
    ∃ auth exitRoot stateRoot proof, authorize chain key = .ok auth ∧
      (Root.ofValue "newLocalExitRoot" v.inputs.exitRoot).result = .ok exitRoot ∧
      (Root.ofValue "newStateRoot" v.inputs.stateRoot).result = .ok stateRoot ∧
      Proof.ofValue v.inputs.proof = .ok proof := by
  simp only [checks, List.take_succ_cons, List.take_zero, List.forall_mem_cons] at h
  obtain ⟨hauth, hexit, hstate, hproof, -⟩ := h
  obtain ⟨auth, hauth⟩ := exists_of_passed hauth
  obtain ⟨exitRoot, hexit⟩ := exists_of_passed hexit
  obtain ⟨stateRoot, hstate⟩ := exists_of_passed hstate
  obtain ⟨proof, hproof⟩ := exists_of_passed hproof
  exact ⟨auth, exitRoot, stateRoot, proof, hauth, hexit, hstate, hproof⟩

/-- A verification that passes all checks has parts. -/
theorem exists_accepts_of_passed (h : ∀ c ∈ checks chain key v, c.outcome = .ok ()) :
    ∃ p, Accepts chain key v p := by
  obtain ⟨auth, exitRoot, stateRoot, proof, hauth, hexit, hstate, hproof⟩ :=
    exists_parts_of_passed fun c hc => h c (List.mem_of_mem_take hc)
  obtain ⟨sender, rfl⟩ := exists_sender_of_authorize hauth
  obtain ⟨beneficiary, haddress⟩ :=
    exists_of_passed (h ⟨(Address.ofValue v.beneficiary).map fun _ => (), []⟩ (by simp [checks]))
  exact ⟨⟨sender, exitRoot, stateRoot, proof, beneficiary⟩, hauth, hexit, hstate, hproof,
    haddress⟩

/-- A verification that has parts passes all checks. -/
theorem Accepts.passed {p : Parts} (h : Accepts chain key v p) :
    ∀ c ∈ checks chain key v, c.outcome = .ok () := by
  simp [checks, h.authorized, h.exitRoot, h.stateRoot, h.proof, h.beneficiary, Except.map]

/-- What a build fails with if the check at an index is the first that fails. Only the address is
checked where a revert is recognised. -/
def faultOf (i : Nat) (f : Fault) : Fault := if i = 4 then settled f else f

/-- A failed check decides what a build fails with and which lines it logs, and nothing else
happens. -/
theorem build_of_firstFault {b : Builder} {i : Nat} {f : Fault}
    (hverify : i = 4 → b.manager.verify?.isSome = true)
    (h : FirstFault (checks b.chain key v) i f) : b.build key v =
      ⟨((checks b.chain key v).take (i + 1)).flatMap Check.lines, .error (faultOf i f)⟩ := by
  obtain ⟨⟨c, hc, hf⟩, hbefore⟩ := h
  match i, hc, hbefore with
  | 0, hc, _ =>
    obtain rfl := Option.some.inj hc
    exact build_of_authorize_error (eq_error_of_failed hf)
  | 1, hc, hbefore =>
    obtain rfl := Option.some.inj hc
    simp only [checks, List.take_succ_cons, List.take_zero, List.forall_mem_cons] at hbefore
    obtain ⟨auth, hauth⟩ := exists_of_passed hbefore.1
    rw [build_of_exitRoot_error hauth (eq_error_of_failed hf)]
    simp [checks, faultOf]
  | 2, hc, hbefore =>
    obtain rfl := Option.some.inj hc
    simp only [checks, List.take_succ_cons, List.take_zero, List.forall_mem_cons] at hbefore
    obtain ⟨auth, hauth⟩ := exists_of_passed hbefore.1
    obtain ⟨exitRoot, hexit⟩ := exists_of_passed hbefore.2.1
    rw [build_of_stateRoot_error hauth hexit (eq_error_of_failed hf)]
    simp [checks, faultOf]
  | 3, hc, hbefore =>
    obtain rfl := Option.some.inj hc
    simp only [checks, List.take_succ_cons, List.take_zero, List.forall_mem_cons] at hbefore
    obtain ⟨auth, hauth⟩ := exists_of_passed hbefore.1
    obtain ⟨exitRoot, hexit⟩ := exists_of_passed hbefore.2.1
    obtain ⟨stateRoot, hstate⟩ := exists_of_passed hbefore.2.2.1
    rw [build_of_proof_error hauth hexit hstate (eq_error_of_failed hf)]
    simp [checks, faultOf]
  | 4, hc, hbefore =>
    obtain rfl := Option.some.inj hc
    obtain ⟨auth, exitRoot, stateRoot, proof, hauth, hexit, hstate, hproof⟩ :=
      exists_parts_of_passed hbefore
    have haddress := eq_error_of_failed hf
    obtain ⟨verify, hverify⟩ := Option.isSome_iff_exists.mp (hverify rfl)
    have hshape : b.shape v auth exitRoot stateRoot proof = ⟨[], .error f⟩ := by
      rw [shape, hverify, haddress]
      rfl
    have hlines : proofLines v.inputs.proof = [] := by rw [proofLines, hproof]
    rw [build_of_proof hauth hexit hstate hproof, hshape, recogniseRevert_eq]
    simp [checks, faultOf, hlines, Except.mapError, Except.bind]

/-- A verification that passes all checks makes the call of its parts, and its outcome is that of
the manager. -/
theorem build_of_accepts {b : Builder} {p : Parts}
    {verify : List Value → TransactionFields → Traced Value}
    (hverify : b.manager.verify? = some verify) (h : Accepts b.chain key v p) :
    let called := verify (arguments b.rollup v.last v.new p.exitRoot p.stateRoot p.beneficiary
      p.proof) ⟨p.sender.text, b.chain, 1, 1, 1⟩
    b.build key v = ⟨(checks b.chain key v).flatMap Check.lines ++ called.events,
      (called.result.mapError settled).bind callOf⟩ := by
  intro called
  have hshape : b.shape v ⟨p.sender, b.chain⟩ p.exitRoot p.stateRoot p.proof = called := by
    rw [shape, hverify]
    simp only [h.beneficiary]
    rw [Traced.bind_of_ok _ (Traced.lift_result _)]
    rfl
  have hlines : proofLines v.inputs.proof = [] := by rw [proofLines, h.proof]
  rw [build_of_proof h.authorized h.exitRoot h.stateRoot h.proof, hshape, recogniseRevert_eq]
  simp [checks, hlines]

end

/-! ## Builds one after the other -/

/-- How a contract responds to a call after others: to what was done before, to the arguments, and
to what a transaction is shaped with. -/
abbrev Behaviour := List Event → List Value → TransactionFields → Except Fault Value

/-- The manager whose function responds in some way, after what was done before. -/
def respondingManager (respond : Behaviour) (past : List Event) : Manager where
  verify? := some fun arguments fields =>
    ⟨[.called "manager" Chain.verifyBatches.name arguments, .shaped fields],
      respond past arguments fields⟩

/-- A build that is asked for, with the key that is drawn for it. -/
structure Request where
  key : Except Fault Address
  verification : Verification

variable (respond : Behaviour) (rollup chain : Value)

/-- The builder of a rollup whose manager responds in some way. -/
def respondingBuilder (past : List Event) : Builder :=
  ⟨respondingManager respond past, rollup, chain⟩

/-- One build of a run. What was done to the contract is kept. -/
def buildStep (past : List Event) (r : Request) : List Event × Traced UnsignedCall :=
  let built := (respondingBuilder respond rollup chain past).build r.key r.verification
  (past ++ built.acts, built)

/-- That a build examines its parts in their order. If a check fails, the build fails with what the
first failing check fails with, after the lines of the checks up to that one, and the contract is
not called. If all are passed the contract is called once, with the parts, and decides. -/
structure Examines (past : List Event) (r : Request) (built : Traced UnsignedCall) : Prop where
  failed : ∀ i f, FirstFault (checks chain r.key r.verification) i f →
    built = ⟨((checks chain r.key r.verification).take (i + 1)).flatMap Check.lines,
      .error (faultOf i f)⟩
  passed : (∀ c ∈ checks chain r.key r.verification, c.outcome = .ok ()) →
    ∃ p, Accepts chain r.key r.verification p ∧
      let parameters := [rollup, .integer 0, r.verification.last, r.verification.new,
        .bytes p.exitRoot.bytes, .bytes p.stateRoot.bytes, .text p.beneficiary.text,
        .list (p.proof.words.map fun w => .bytes w.bytes)]
      let fields : TransactionFields := ⟨p.sender.text, chain, 1, 1, 1⟩
      built = ⟨(checks chain r.key r.verification).flatMap Check.lines ++
          [.called "manager" "verifyBatchesTrustedAggregator" parameters, .shaped fields],
        ((respond past parameters fields).mapError settled).bind callOf⟩
  nonpositive : ∀ n, chain.integer? = some n → n ≤ 0 → n.natAbs < 10 ^ Text.maxIntegerDigits →
    built = ⟨[], .error (.noAuthorization (.chainNotPositive chain))⟩
  /-- The text of that failure shows the chain, and a chain of too many digits cannot be shown. -/
  unshown : ∀ n, chain.integer? = some n → n ≤ 0 → 10 ^ Text.maxIntegerDigits ≤ n.natAbs →
    built = ⟨[], .error .unwrittenInteger⟩

/-- A chain that is not positive is refused whatever the rest is. -/
theorem create_of_nonpositive {n : Int} (hn : chain.integer? = some n) (hle : n ≤ 0)
    (key : Except Fault Address) :
    Authorization.create chain key = .error (.showing .chainNotPositive chain) := by
  have hsign : chain.isNonpositive = .ok true := by
    cases chain with
    | integer m => simp_all [Value.isNonpositive, Value.integer?]
    | truth t => simp_all [Value.isNonpositive, Value.integer?]
    | _ => simp [Value.integer?] at hn
  unfold Authorization.create
  rw [hsign]
  rfl

/-- The refusal of a chain that can be written is one to authorize. -/
theorem authorize_of_nonpositive {n : Int} (hn : chain.integer? = some n) (hle : n ≤ 0)
    (hshort : n.natAbs < 10 ^ Text.maxIntegerDigits) (key : Except Fault Address) :
    authorize chain key = .error (.noAuthorization (.chainNotPositive chain)) := by
  have hwritable : chain.isWritable = true := by rwa [Value.isWritable_iff_of_integer? hn]
  rw [authorize, create_of_nonpositive chain hn hle, Fault.showing_of_isWritable _ hwritable]
  rfl

/-- A chain with too many digits cannot even be refused. -/
theorem authorize_of_unshown {n : Int} (hn : chain.integer? = some n) (hle : n ≤ 0)
    (hlong : 10 ^ Text.maxIntegerDigits ≤ n.natAbs) (key : Except Fault Address) :
    authorize chain key = .error .unwrittenInteger := by
  have hwritable : chain.isWritable = false := by
    rw [Bool.eq_false_iff, ne_eq, Value.isWritable_iff_of_integer? hn]
    exact Nat.not_lt.mpr hlong
  rw [authorize, create_of_nonpositive chain hn hle, Fault.showing_of_not_isWritable _ hwritable]
  rfl

/-- Every build of a run examines its parts in their order. -/
theorem examines_buildStep (past : List Event) (r : Request) :
    Examines respond rollup chain past r (buildStep respond rollup chain past r).2 where
  failed _ _ h := build_of_firstFault (fun _ => rfl) h
  passed h := by
    obtain ⟨p, hp⟩ := exists_accepts_of_passed h
    exact ⟨p, hp, build_of_accepts (b := respondingBuilder respond rollup chain past) rfl hp⟩
  nonpositive n hn hle hshort :=
    build_of_authorize_error (authorize_of_nonpositive chain hn hle hshort r.key)
  unshown n hn hle hlong :=
    build_of_authorize_error (authorize_of_unshown chain hn hle hlong r.key)

/-- A check logs lines and does nothing else. -/
theorem isLogged_of_mem_lines {key : Except Fault Address} {v : Verification} {c : Check}
    (hc : c ∈ checks chain key v) {e : Event} (he : e ∈ c.lines) : e.isLogged = true := by
  have hcut (name : Text) (root : Value) (h : e ∈ Root.cutLines name root) :
      e.isLogged = true := by
    unfold Root.cutLines at h
    split at h
    · split at h
      · rw [List.mem_singleton.mp h]
        rfl
      · exact absurd h List.not_mem_nil
    · exact absurd h List.not_mem_nil
  have hproof (proof : Value) (h : e ∈ proofLines proof) : e.isLogged = true := by
    unfold proofLines at h
    split at h
    · exact absurd h List.not_mem_nil
    · exact absurd h List.not_mem_nil
    · rw [List.mem_singleton.mp h]
      rfl
  simp only [checks, List.mem_cons, List.not_mem_nil, or_false] at hc
  rcases hc with rfl | rfl | rfl | rfl | rfl
  · exact absurd he List.not_mem_nil
  · exact hcut _ _ he
  · exact hcut _ _ he
  · exact hproof _ he
  · exact absurd he List.not_mem_nil

theorem filter_lines {key : Except Fault Address} {v : Verification} {cs : List Check}
    (hcs : cs ⊆ checks chain key v) :
    (cs.flatMap Check.lines).filter (fun e => !e.isLogged) = [] := by
  rw [List.filter_eq_nil_iff]
  intro e he
  obtain ⟨c, hc, hline⟩ := List.mem_flatMap.mp he
  simp [isLogged_of_mem_lines chain (hcs hc) hline]

/-- A build that fails a check does nothing to the contract. -/
theorem buildStep_of_firstFault {past : List Event} {r : Request} {i : Nat} {f : Fault}
    (h : FirstFault (checks chain r.key r.verification) i f) :
    (buildStep respond rollup chain past r).1 = past := by
  have hbuilt : (respondingBuilder respond rollup chain past).build r.key r.verification =
      ⟨((checks chain r.key r.verification).take (i + 1)).flatMap Check.lines,
        .error (faultOf i f)⟩ := build_of_firstFault (fun _ => rfl) h
  rw [buildStep, hbuilt, Traced.acts, filter_lines chain (List.take_subset _ _), List.append_nil]

/-- Where a contract responds alike, builds answer alike. -/
theorem answers_of_alike {past past' : List Event}
    (h : ∀ more, respond (past ++ more) = respond (past' ++ more)) (rs : List Request) :
    (Run.along (buildStep respond rollup chain) past rs).2 =
      (Run.along (buildStep respond rollup chain) past' rs).2 := by
  let related (s t : List Event) : Prop := ∃ more, s = past ++ more ∧ t = past' ++ more
  have hstart : related past past' := ⟨[], by simp, by simp⟩
  have hstep : ∀ r ∈ rs, ∀ s t, related s t →
      related (buildStep respond rollup chain s r).1 (buildStep respond rollup chain t r).1 ∧
        id (buildStep respond rollup chain s r).2 = (buildStep respond rollup chain t r).2 := by
    rintro r - _ _ ⟨more, rfl, rfl⟩
    have hbuilder : respondingBuilder respond rollup chain (past ++ more) =
        respondingBuilder respond rollup chain (past' ++ more) := by
      simp only [respondingBuilder, respondingManager, h more]
    rw [buildStep, buildStep, hbuilder]
    exact ⟨⟨more ++ _, by rw [List.append_assoc], by rw [List.append_assoc]⟩, rfl⟩
  rw [← (Run.along_refines hstep hstart).2, List.map_id]

/-- That a contract responds to all that is still to come as if something had not been done. -/
def Forgets (past done : List Event) : Prop :=
  ∀ more, respond (past ++ done ++ more) = respond (past ++ more)

/-- In every run of builds on one builder each build examines its parts in their order. A build that
fails a check leaves no trace in the others: without it they would answer the same. So would they
without any other build, unless the contract itself remembers its call. -/
theorem run_examinesInOrder (requests : List Request) {i : Nat} {r : Request}
    (hr : requests[i]? = some r) :
    let answers := (Run.along (buildStep respond rollup chain) [] requests).2
    let past := (Run.along (buildStep respond rollup chain) [] (requests.take i)).1
    ∃ built, answers[i]? = some built ∧ Examines respond rollup chain past r built ∧
      ((∃ j f, FirstFault (checks chain r.key r.verification) j f) ∨
          Forgets respond past built.acts →
        (Run.along (buildStep respond rollup chain) [] (requests.eraseIdx i)).2 =
          answers.eraseIdx i) := by
  intro answers past
  refine ⟨_, Run.answer_along _ [] hr, examines_buildStep respond rollup chain past r,
    fun htraceless => Run.along_eraseIdx _ [] hr ?_⟩
  rcases htraceless with ⟨j, f, hfault⟩ | hforgets
  · rw [buildStep_of_firstFault respond rollup chain hfault]
  · exact answers_of_alike respond rollup chain hforgets _

/-- A verification with a root that is too long, a root that is too short, no proof and no
address. -/
def brokenVerification : Verification where
  last := .integer 0
  new := .integer 1
  inputs := ⟨.text "0x1", .bytes (List.replicate 33 9), .bytes (List.replicate 31 8)⟩
  beneficiary := .text "nowhere"

/-- Of a broken build and a good one the first fails with its short root after a warning about its
long one, and the second makes its call as if it were alone. -/
theorem run_examinesInOrder_broken :
    let respond : Behaviour := fun _ _ _ =>
      .ok (.record [("to", .text "manager"), ("data", .text "0x12")])
    let broken : Request := ⟨.ok countingAddress, brokenVerification⟩
    let good : Request := ⟨.ok countingAddress, wideVerification⟩
    let answers := (Run.along (buildStep respond (.integer 1) (.integer 5)) [] [broken, good]).2
    [broken, good][0]? = some broken ∧ [broken, good][1]? = some good ∧
      answers[0]? = some ⟨[.logged .warning .calldata
        "newLocalExitRoot is 33 bytes, truncating to 32"],
          .error (.rootLength "newStateRoot" 31)⟩ ∧
      (∃ built, answers[1]? = some built ∧ built.result = .ok ⟨.text "manager", [0x12]⟩ ∧
        built.acts.length = 2) ∧
      (Run.along (buildStep respond (.integer 1) (.integer 5)) [] [good]).2 =
        answers.eraseIdx 0 := by
  intro respond broken good answers
  have hfault : FirstFault (checks (.integer 5) broken.key broken.verification) 2
      (.rootLength "newStateRoot" 31) := by
    refine ⟨⟨_, rfl, rfl⟩, ?_⟩
    simp only [checks, List.take_succ_cons, List.take_zero, List.forall_mem_cons]
    exact ⟨rfl, rfl, by simp⟩
  obtain ⟨first, hfirst, hexamines, hrest⟩ :=
    run_examinesInOrder respond (.integer 1) (.integer 5) [broken, good] (i := 0) (r := broken) rfl
  obtain ⟨second, hsecond, hexamines', -⟩ :=
    run_examinesInOrder respond (.integer 1) (.integer 5) [broken, good] (i := 1) (r := good) rfl
  have hparts : Accepts (.integer 5) good.key good.verification
      ⟨countingAddress, ⟨List.replicate 32 9, rfl⟩, ⟨List.replicate 32 8, rfl⟩, countingProof,
        countingAddress⟩ :=
    ⟨rfl, rfl, rfl, countingProof.ofText_writeMarked, rfl⟩
  obtain ⟨p, -, hbuilt⟩ := hexamines'.passed hparts.passed
  refine ⟨rfl, rfl, ?_, ⟨second, hsecond, ?_, ?_⟩, hrest (.inl ⟨_, _, hfault⟩)⟩
  · rw [hfirst, hexamines.failed _ _ hfault]
    rfl
  · rw [hbuilt]
    rfl
  · rw [hbuilt, Traced.acts, List.filter_append, filter_lines _ (List.Subset.refl _)]
    rfl

end Builder

end BatchFrontier
