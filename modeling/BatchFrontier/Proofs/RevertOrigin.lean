import BatchFrontier.Proofs.BuildChecks
import BatchFrontier.Proofs.FaultKinds
import BatchFrontier.Proofs.RevertGrammar

/-!
# Where a revert comes from

A build that ends in a revert should have been rejected by the contract. It is so, unless the text
of the refused address speaks of a revert, because the address is read where reverts are recognised,
or the contract itself fails with a revert that does not speak of one.
-/

namespace BatchFrontier

/-- Whether a fault is a revert, recognised here or elsewhere. -/
def Fault.isRevert : Fault → Bool
  | .reverted _ => true
  | .reported _ r => r.kind == .reverted
  | _ => false

/-- A request to stop is no revert. -/
theorem Fault.isRevert_of_isStop {f : Fault} (h : f.isStop = true) : f.isRevert = false := by
  cases f with
  | reported label r =>
    have hkind : r.kind = .stop := by simpa [isStop] using h
    simp [isRevert, hkind]
  | _ => cases h

/-- Whether a fault is none of those that are reverts. -/
abbrev Fault.isOther (f : Fault) : Bool := !f.isRevert

open FailsOnly

/-! ## Checks never revert -/

namespace Value

theorem toBytes_isOther (v : Value) : FailsOnly Fault.isOther v.toBytes := by
  unfold toBytes
  split
  · exact ok _
  · unfold bytesOfText
    simp only
    split
    · exact error rfl
    · split
      · exact ok _
      · exact error rfl
  · exact ok _
  · split
    · exact error rfl
    · exact ok _
  · exact error rfl

theorem named_isOther (v : Value) (name : Text) : FailsOnly Fault.isOther (v.named name) := by
  unfold named
  split
  · split
    · exact ok _
    · exact error rfl
  all_goals exact error rfl

end Value

theorem Root.ofValue_isOther (name : Text) (v : Value) :
    FailsOnly Fault.isOther (Root.ofValue name v).result := by
  unfold Root.ofValue
  rw [Traced.bind_result]
  refine FailsOnly.bind ?_ fun raw _ => ?_
  · rw [Traced.lift_result]
    unfold Root.rawBytes
    split
    · split
      · exact Value.toBytes_isOther _
      · exact error rfl
    · exact Value.toBytes_isOther _
  · unfold Root.ofBytes
    split
    · exact error rfl
    · simp only
      split
      · exact ok _
      · exact ok _

theorem Proof.ofValue_isOther (v : Value) : FailsOnly Fault.isOther (Proof.ofValue v) := by
  have hwords (n i : Nat) (t : Text) : FailsOnly Fault.isOther (Proof.readWords n i t) := by
    induction n generalizing i t with
    | zero => exact ok _
    | succ n ih =>
      unfold Proof.readWords
      simp only
      split
      · exact error rfl
      · split
        · exact ok _
        · next f hf => exact error (ih _ _ f hf)
  unfold Proof.ofValue
  split
  · unfold Proof.ofText
    simp only
    split
    · exact error rfl
    · split
      · exact ok _
      · next f hf => exact error (hwords _ _ _ f hf)
  · exact error rfl

namespace Builder

theorem authorize_isOther (chain : Value) (key : Except Fault Address) :
    FailsOnly Fault.isOther (authorize chain key) := by
  have hcreate : FailsOnly Fault.isOther (Authorization.create chain key) := by
    refine FailsOnly.bind ?_ fun nonpositive _ => ?_
    · unfold Value.isNonpositive
      split
      · exact ok _
      · split
        · exact ok _
        · exact error rfl
    · split
      · exact FailsOnly.showing rfl rfl
      · split
        · exact ok _
        · refine error ?_
          split
          · next hstop => simp [Fault.isOther, Fault.isRevert_of_isStop hstop]
          · rfl
  unfold authorize
  split
  · next f hf =>
    refine error ?_
    split
    · rfl
    · exact hcreate f hf
  · exact ok _

theorem callOf_isOther (transaction : Value) : FailsOnly Fault.isOther (callOf transaction) :=
  (Value.named_isOther _ _).bind fun _ _ => (Value.named_isOther _ _).bind fun data _ =>
    (Value.toBytes_isOther data).bind fun _ _ => ok _

/-- No check fails with a revert. -/
theorem check_isOther {chain : Value} {key : Except Fault Address} {v : Verification} {c : Check}
    (hc : c ∈ checks chain key v) : FailsOnly Fault.isOther c.outcome := by
  simp only [checks, List.mem_cons, List.not_mem_nil, or_false] at hc
  rcases hc with rfl | rfl | rfl | rfl | rfl
  · exact (authorize_isOther chain key).map _
  · exact (Root.ofValue_isOther _ _).map _
  · exact (Root.ofValue_isOther _ _).map _
  · exact (Proof.ofValue_isOther _).map _
  · refine FailsOnly.map _ ?_
    unfold Address.ofValue
    split
    · exact ok _
    · exact FailsOnly.showing rfl rfl

/-! ## Recognised faults -/

/-- A refused address is recognised as a revert by the text in which it is quoted. -/
theorem recognise?_badAddress (v : Value) : Revert.recognise? (.badAddress v) =
    (Revert.reasonOfText? v.literal).map .reverted := rfl

/-- The refusal of an address that cannot be quoted is not recognised. -/
theorem settled_unwrittenInteger : settled .unwrittenInteger = .unwrittenInteger := by
  have hreason : (Revert.Evidence.ofFault .unwrittenInteger).reason? = none := by decide +kernel
  have hstop : Fault.isStop .unwrittenInteger = false := rfl
  rw [settled, Revert.recognise?, hreason, hstop]
  rfl

/-- What becomes of a fault is a revert only if it is recognised as one or is one itself. -/
theorem recognise?_or_isRevert {f : Fault} (h : (settled f).isRevert = true) :
    Revert.recognise? f = some (settled f) ∨
      Revert.recognise? f = none ∧ f.isRevert = true ∧ settled f = f := by
  unfold settled at h ⊢
  by_cases hstop : f.isStop = true
  · rw [if_pos hstop, Fault.isRevert_of_isStop hstop] at h
    cases h
  · rw [if_neg hstop] at h ⊢
    cases hrecognised : Revert.recognise? f with
    | some g => exact .inl rfl
    | none =>
      rw [hrecognised] at h
      exact .inr ⟨rfl, h, rfl⟩

/-! ## The origin of a revert -/

section

variable (b : Builder) (key : Except Fault Address) (v : Verification)

/-- That all checks of a build are passed, and the contract fails. -/
def ContractFails (f : Fault) : Prop :=
  ∃ p verify, b.manager.verify? = some verify ∧ Accepts b.chain key v p ∧
    (verify (arguments b.rollup v.last v.new p.exitRoot p.stateRoot p.beneficiary p.proof)
      ⟨p.sender.text, b.chain, 1, 1, 1⟩).result = .error f

/-- That a build ends in a revert only if the contract fails with what is recognised as one, after
all checks were passed. In particular a text that is no address is named as such, if nothing else is
wrong. -/
structure RevertsByContract : Prop where
  revert : ∀ g, (b.build key v).result = .error g → g.isRevert = true →
    ∃ f, ContractFails b key v f ∧ (Revert.recognise? f).isSome = true
  address : ∀ t, v.beneficiary = .text t → Address.ofValue? v.beneficiary = none →
    (∀ c ∈ (checks b.chain key v).take 4, c.outcome = .ok ()) →
    b.manager.verify?.isSome = true →
    (b.build key v).result = .error (.badAddress v.beneficiary)

/-- That a revert is forged: nothing is wrong but the address, which speaks of a revert when it is
quoted. -/
structure Forged : Prop where
  shapes : b.manager.verify?.isSome = true
  passed : ∀ c ∈ (checks b.chain key v).take 4, c.outcome = .ok ()
  refused : Address.ofValue? v.beneficiary = none
  quotable : v.beneficiary.isWritable = true
  speaks : Revert.Speaks v.beneficiary.literal

/-- That the contract itself fails with a revert that is not recognised. -/
def Relayed : Prop :=
  ∃ f, ContractFails b key v f ∧ f.isRevert = true ∧ Revert.recognise? f = none

variable {b key v}

/-- If the address is refused, so is the build, unless the refusal is recognised as a revert. An
address that cannot be quoted is refused without being named. -/
theorem build_of_refused (hshapes : b.manager.verify?.isSome = true)
    (hpassed : ∀ c ∈ (checks b.chain key v).take 4, c.outcome = .ok ())
    (hrefused : Address.ofValue? v.beneficiary = none) :
    b.build key v = ⟨((checks b.chain key v).take 5).flatMap Check.lines,
      .error (settled (.showing .badAddress v.beneficiary))⟩ := by
  have haddress : Address.ofValue v.beneficiary =
      .error (.showing .badAddress v.beneficiary) := by
    rw [Address.ofValue, hrefused]
  have hfault : FirstFault (checks b.chain key v) 4 (.showing .badAddress v.beneficiary) :=
    ⟨⟨_, rfl, by rw [haddress]; rfl⟩, hpassed⟩
  exact build_of_firstFault (fun _ => hshapes) hfault

/-- A forged revert is one, and the contract is not called. -/
theorem Forged.build (h : Forged b key v) : ∃ reason,
    Revert.recognise? (.badAddress v.beneficiary) = some (.reverted reason) ∧
      (b.build key v).result = .error (.reverted reason) ∧ (b.build key v).acts = [] := by
  obtain ⟨reason, hreason⟩ :=
    Option.isSome_iff_exists.mp ((Revert.reasonOfText?_isSome_iff _).mpr h.speaks)
  have hrecognised : Revert.recognise? (.badAddress v.beneficiary) = some (.reverted reason) := by
    rw [recognise?_badAddress, hreason]
    rfl
  have hbuild := build_of_refused h.shapes h.passed h.refused
  have hsettled : settled (.showing .badAddress v.beneficiary) = .reverted reason := by
    rw [Fault.showing_of_isWritable _ h.quotable, settled, hrecognised]
    rfl
  rw [hbuild, hsettled]
  exact ⟨reason, hrecognised, rfl, filter_lines b.chain (List.take_subset _ _)⟩

/-- The parts of a verification are determined. -/
theorem Accepts.unique {chain : Value} {p q : Parts} (hp : Accepts chain key v p)
    (hq : Accepts chain key v q) : p = q := by
  obtain ⟨hsender, hexit, hstate, hproof, haddress⟩ := hp
  obtain ⟨hsender', hexit', hstate', hproof', haddress'⟩ := hq
  cases p
  cases q
  simp only [Parts.mk.injEq]
  refine ⟨?_, Except.ok.inj (hexit.symm.trans hexit'), Except.ok.inj (hstate.symm.trans hstate'),
    Except.ok.inj (hproof.symm.trans hproof'), Except.ok.inj (haddress.symm.trans haddress')⟩
  exact (Authorization.mk.injEq .. ▸ Except.ok.inj (hsender.symm.trans hsender')).1

/-- The contract fails in one way. -/
theorem ContractFails.unique {f g : Fault} (hf : ContractFails b key v f)
    (hg : ContractFails b key v g) : f = g := by
  obtain ⟨p, verify, hverify, hp, hresult⟩ := hf
  obtain ⟨q, verify', hverify', hq, hresult'⟩ := hg
  obtain rfl := Option.some.inj (hverify.symm.trans hverify')
  obtain rfl := hp.unique hq
  exact Except.error.inj (hresult.symm.trans hresult')

/-- If the contract fails after all checks, what becomes of its fault is the end of the build. -/
theorem ContractFails.build {f : Fault} (h : ContractFails b key v f) :
    (b.build key v).result = .error (settled f) := by
  obtain ⟨p, verify, hverify, hp, hresult⟩ := h
  rw [build_of_accepts hverify hp]
  simp only [hresult]
  rfl

/-- Without the function of the manager a build with four passed checks says that it is missing. -/
theorem build_of_missing (hmissing : b.manager.verify? = none)
    (hpassed : ∀ c ∈ (checks b.chain key v).take 4, c.outcome = .ok ()) :
    (b.build key v).result = .error (.missingFunction Chain.verifyBatches.name) := by
  obtain ⟨auth, exitRoot, stateRoot, proof, hauth, hexit, hstate, hproof⟩ :=
    exists_parts_of_passed hpassed
  have hshape : b.shape v auth exitRoot stateRoot proof =
      Traced.fail (.missingFunction Chain.verifyBatches.name) := by
    rw [shape, hmissing]
  rw [build_of_proof hauth hexit hstate hproof, hshape, recogniseRevert_eq]
  rfl

/-- Without the function of the manager no build ends in a revert. -/
theorem not_isRevert_of_missing (hmissing : b.manager.verify? = none) {g : Fault}
    (hg : (b.build key v).result = .error g) : g.isRevert = false := by
  rcases passed_or_firstFault (checks b.chain key v) with hpassed | ⟨i, f, hfault⟩
  · have hbuild := build_of_missing hmissing fun c hc => hpassed c (List.mem_of_mem_take hc)
    obtain rfl := Except.error.inj (hbuild.symm.trans hg)
    rfl
  · by_cases hi : i = 4
    · subst hi
      have hbuild := build_of_missing hmissing hfault.2
      obtain rfl := Except.error.inj (hbuild.symm.trans hg)
      rfl
    · have hbuild := build_of_firstFault (fun h => absurd h hi) hfault
      obtain ⟨c, hc, hf⟩ := hfault.1
      have hother := check_isOther (List.mem_of_getElem? hc) f hf
      rw [hbuild, faultOf, if_neg hi] at hg
      obtain rfl := Except.error.inj hg
      by_contra hrevert
      simp [Fault.isOther, hrevert] at hother

/-- A check that fails in a revert is that of the address, and the revert is forged. -/
theorem forged_of_firstFault (hshapes : b.manager.verify?.isSome = true) {i : Nat} {f : Fault}
    (hfault : FirstFault (checks b.chain key v) i f) (hrevert : (faultOf i f).isRevert = true) :
    Forged b key v := by
  obtain ⟨⟨c, hc, hf⟩, hbefore⟩ := hfault
  have hother := check_isOther (List.mem_of_getElem? hc) f hf
  unfold faultOf at hrevert
  split at hrevert
  · next hi =>
    -- Only the address is checked where reverts are recognised.
    subst hi
    obtain rfl := Option.some.inj hc
    have haddress := eq_error_of_failed hf
    unfold Address.ofValue at haddress
    split at haddress
    · cases haddress
    next hrefused =>
    obtain rfl := Except.error.inj haddress
    cases hquotable : v.beneficiary.isWritable with
    | false =>
      rw [Fault.showing_of_not_isWritable _ hquotable, settled_unwrittenInteger] at hrevert
      cases hrevert
    | true =>
      rw [Fault.showing_of_isWritable _ hquotable] at hrevert
      rcases recognise?_or_isRevert hrevert with hrecognised | ⟨-, hself, -⟩
      · refine ⟨hshapes, hbefore, hrefused, hquotable, ?_⟩
        rw [← Revert.reasonOfText?_isSome_iff]
        rw [recognise?_badAddress] at hrecognised
        have hsome := congrArg Option.isSome hrecognised
        simpa using hsome
      · cases hself
  · simp [Fault.isOther, hrevert] at hother

/-- A build ends in a revert because the contract fails with what is recognised as one, or because
it is forged, or because the contract fails with a revert that is not recognised. -/
theorem origin_of_revert {g : Fault} (hg : (b.build key v).result = .error g)
    (hrevert : g.isRevert = true) :
    (∃ f, ContractFails b key v f ∧ (Revert.recognise? f).isSome = true) ∨ Forged b key v ∨
      Relayed b key v := by
  cases hmissing : b.manager.verify? with
  | none =>
    rw [not_isRevert_of_missing hmissing hg] at hrevert
    cases hrevert
  | some verify =>
    have hshapes : b.manager.verify?.isSome = true := by rw [hmissing]; rfl
    rcases passed_or_firstFault (checks b.chain key v) with hpassed | ⟨i, f, hfault⟩
    · obtain ⟨p, hp⟩ := exists_accepts_of_passed hpassed
      cases hcalled : (verify (arguments b.rollup v.last v.new p.exitRoot p.stateRoot
        p.beneficiary p.proof) ⟨p.sender.text, b.chain, 1, 1, 1⟩).result with
      | ok transaction =>
        rw [build_of_accepts hmissing hp] at hg
        simp only [hcalled] at hg
        have hother := callOf_isOther transaction g hg
        simp [Fault.isOther, hrevert] at hother
      | error f =>
        have hfails : ContractFails b key v f := ⟨p, verify, hmissing, hp, hcalled⟩
        obtain rfl := Except.error.inj (hfails.build.symm.trans hg)
        rcases recognise?_or_isRevert hrevert with hrecognised | ⟨hnone, hself, -⟩
        · exact .inl ⟨f, hfails, by rw [hrecognised]; rfl⟩
        · exact .inr (.inr ⟨f, hfails, hself, hnone⟩)
    · rw [build_of_firstFault (fun _ => hshapes) hfault] at hg
      obtain rfl := Except.error.inj hg
      exact .inr (.inl (forged_of_firstFault hshapes hfault hrevert))

end

/-- A build ends in a revert only if the contract fails with what is recognised as one, unless the
revert is forged or relayed. A forged one is taken for a revert although the contract was not
called. The address of a forged one, if it is a text, holds in quotation marks a marker before a
character that is neither a quotation mark nor a closing brace. -/
theorem revertsByContract_iff (b : Builder) (key : Except Fault Address) (v : Verification) :
    (RevertsByContract b key v ↔ ¬ Forged b key v ∧ ¬ Relayed b key v) ∧
      (Forged b key v → ∃ reason, (b.build key v).result = .error (.reverted reason) ∧
        (b.build key v).acts = []) ∧
      ∀ t, v.beneficiary = .text t → (Revert.Speaks v.beneficiary.literal ↔
        ∃ before c after, (Text.quote t).toList =
          before ++ ("execution reverted:".toList ++ c :: after) ∧ c ∉ ['\'', '"', '}']) := by
  refine ⟨⟨fun h => ⟨?_, ?_⟩, fun h => ⟨?_, ?_⟩⟩, fun h => ?_, ?_⟩
  · intro hforged
    obtain ⟨reason, -, hbuild, -⟩ := hforged.build
    obtain ⟨f, ⟨p, -, -, hp, -⟩, -⟩ := h.revert _ hbuild rfl
    have haddress := hp.beneficiary
    rw [Address.ofValue, hforged.refused] at haddress
    cases haddress
  · rintro ⟨f, hfails, hrevert, hnone⟩
    have hsettled : settled f = f := by
      have hgo : f.isStop = false := by
        by_contra hstop
        rw [Fault.isRevert_of_isStop (by simpa using hstop)] at hrevert
        cases hrevert
      simp [settled, hgo, hnone]
    obtain ⟨f', hfails', hsome⟩ :=
      h.revert f (by rw [hfails.build, hsettled]) hrevert
    obtain rfl := hfails.unique hfails'
    simp [hnone] at hsome
  · intro g hg hrevert
    rcases origin_of_revert hg hrevert with hcontract | hforged | hrelayed
    · exact hcontract
    · exact absurd hforged h.1
    · exact absurd hrelayed h.2
  · intro t ht hrefused hpassed hshapes
    have hbuild := build_of_refused hshapes hpassed hrefused
    have hquotable : v.beneficiary.isWritable = true := by rw [ht, Value.isWritable_text]
    have hsilent : Revert.recognise? (.badAddress v.beneficiary) = none := by
      rw [recognise?_badAddress, Option.map_eq_none_iff, ← Option.not_isSome_iff_eq_none,
        Revert.reasonOfText?_isSome_iff]
      exact fun hspeaks => h.1 ⟨hshapes, hpassed, hrefused, hquotable, hspeaks⟩
    rw [hbuild, Fault.showing_of_isWritable _ hquotable, settled, hsilent]
    rfl
  · obtain ⟨reason, -, hresult, hacts⟩ := h.build
    exact ⟨reason, hresult, hacts⟩
  · intro t ht
    rw [ht]
    exact Revert.speaks_quote_iff t

/-- A build whose address speaks of a revert. -/
def forgedVerification : Verification :=
  { wideVerification with beneficiary := .text "execution reverted: Foo" }

/-- A build with such an address ends in a revert, whatever the contract does, and not with the
address. -/
theorem reverts_of_forgedVerification :
    let b : Builder := ⟨.ofOutcome (some (.ok .nothing)), .integer 1, .integer 1⟩
    (b.build (.ok countingAddress) forgedVerification).result = .error (.reverted "Foo") ∧
      (b.build (.ok countingAddress) forgedVerification).acts = [] ∧
      ¬ RevertsByContract b (.ok countingAddress) forgedVerification := by
  intro b
  have hpassed : ∀ c ∈ (checks b.chain (.ok countingAddress) forgedVerification).take 4,
      c.outcome = .ok () := by
    have hproof : Proof.ofValue forgedVerification.inputs.proof = .ok countingProof :=
      countingProof.ofText_writeMarked
    simp only [checks, List.take_succ_cons, List.take_zero, List.forall_mem_cons, hproof]
    exact ⟨rfl, rfl, rfl, rfl, by simp⟩
  have hrefused : Address.ofValue? forgedVerification.beneficiary = none := by decide +kernel
  have hbuild := build_of_refused (b := b) rfl hpassed hrefused
  have hsettled : settled (.showing .badAddress forgedVerification.beneficiary) =
      .reverted "Foo" := rfl
  rw [hbuild, hsettled]
  refine ⟨rfl, filter_lines b.chain (List.take_subset _ _), fun h => ?_⟩
  have haddress := h.address _ rfl hrefused hpassed rfl
  rw [hbuild, hsettled] at haddress
  cases haddress

end Builder

end BatchFrontier
