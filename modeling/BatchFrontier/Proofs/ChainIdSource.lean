import BatchFrontier.Proofs.NodeFaults
import BatchFrontier.Proofs.ReaderRuns
import BatchFrontier.Proofs.WordLayout

/-!
# Where a chain id comes from

A chain id is never zero. It comes from the legacy contract, if that gives one, and the manager is
left alone then; otherwise it comes from the manager, or the failure does. So it is for the
contracts behind a node, whatever the node replies, and for contracts whose answers are given.

The refusal of a zero shows the id of the rollup. If that has too many digits to be written, a zero
of either contract ends the read at once, and it ends with that the id cannot be written.
-/

namespace BatchFrontier

namespace Reader

/-- That a computation prefers the chain id of the legacy contract to that of the manager, where
both are known by what they give and what they do, and the manager by what it fails with. -/
structure PrefersLegacy (legacy manager : Int → Prop) (failure : Fault → Prop) (rollup : Value)
    (legacyActs managerActs : List Event) (x : Traced Int) : Prop where
  value : ∀ v, x.result = .ok v ↔ v ≠ 0 ∧ (legacy v ∨ (∀ u, legacy u → u = 0) ∧ manager v)
  empty : x.result = .error (.emptyChainId rollup) ↔ (∀ u, legacy u → u = 0) ∧ manager 0
  failed : ∀ f, f ≠ .emptyChainId rollup →
    (x.result = .error f ↔ (∀ u, legacy u → u = 0) ∧ failure f)
  acts_legacy : ∀ v, v ≠ 0 → legacy v → x.acts = legacyActs
  acts_manager : (∀ u, legacy u → u = 0) → x.acts = legacyActs ++ managerActs

/-- If the legacy contract gives nothing but zero, only the manager counts. -/
theorem PrefersLegacy.of_manager {legacy manager : Int → Prop} {failure : Fault → Prop}
    {rollup : Value} {legacyActs managerActs : List Event} {x : Traced Int}
    (hnone : ∀ u, legacy u → u = 0) (hvalue : ∀ v, x.result = .ok v ↔ v ≠ 0 ∧ manager v)
    (hempty : x.result = .error (.emptyChainId rollup) ↔ manager 0)
    (hfailed : ∀ f, f ≠ .emptyChainId rollup → (x.result = .error f ↔ failure f))
    (hacts : x.acts = legacyActs ++ managerActs) :
    PrefersLegacy legacy manager failure rollup legacyActs managerActs x where
  value v := by
    rw [hvalue v]
    constructor
    · rintro ⟨hv, hmanager⟩
      exact ⟨hv, .inr ⟨hnone, hmanager⟩⟩
    · rintro ⟨hv, hlegacy | ⟨-, hmanager⟩⟩
      · exact absurd (hnone v hlegacy) hv
      · exact ⟨hv, hmanager⟩
  empty := hempty.trans ⟨fun h => ⟨hnone, h⟩, And.right⟩
  failed f hf := (hfailed f hf).trans ⟨fun h => ⟨hnone, h⟩, And.right⟩
  acts_legacy v hv hlegacy := absurd (hnone v hlegacy) hv
  acts_manager _ := hacts

/-- If the legacy contract gives a chain id, the manager does not count. -/
theorem PrefersLegacy.of_legacy {legacy manager : Int → Prop} {failure : Fault → Prop}
    {rollup : Value} {legacyActs managerActs : List Event} {x : Traced Int} {n : Int} (hn : n ≠ 0)
    (hlegacy : ∀ v, legacy v ↔ v = n) (hresult : x.result = .ok n) (hacts : x.acts = legacyActs) :
    PrefersLegacy legacy manager failure rollup legacyActs managerActs x := by
  have hsome : ¬ ∀ u, legacy u → u = 0 := fun h => hn (h n ((hlegacy n).mpr rfl))
  refine ⟨fun v => ?_, ?_, fun f _ => ?_, fun _ _ _ => hacts, fun h => absurd h hsome⟩
  · rw [hresult, hlegacy, Except.ok.injEq]
    constructor
    · rintro rfl
      exact ⟨hn, .inl rfl⟩
    · rintro ⟨-, rfl | ⟨h, -⟩⟩
      · rfl
      · exact absurd h hsome
  · simp [hresult, hsome]
  · simp [hresult, hsome]

/-- That a computation prefers the chain id of the legacy contract where a refusal cannot be
written: a zero of either contract ends it, and after one of the legacy contract the manager is left
alone. -/
structure StumblesOnZero (legacy manager : Int → Prop) (failure : Fault → Prop)
    (legacyActs managerActs : List Event) (x : Traced Int) : Prop where
  value : ∀ v, x.result = .ok v ↔ v ≠ 0 ∧ (legacy v ∨ (∀ u, ¬ legacy u) ∧ manager v)
  unwritten : x.result = .error .unwrittenInteger ↔
    legacy 0 ∨ (∀ u, ¬ legacy u) ∧ (manager 0 ∨ failure .unwrittenInteger)
  failed : ∀ f, f ≠ .unwrittenInteger →
    (x.result = .error f ↔ (∀ u, ¬ legacy u) ∧ failure f)
  acts_legacy : ∀ v, legacy v → x.acts = legacyActs
  acts_manager : (∀ u, ¬ legacy u) → x.acts = legacyActs ++ managerActs

/-- If the legacy contract gives nothing, only the manager counts. -/
theorem StumblesOnZero.of_manager {legacy manager : Int → Prop} {failure : Fault → Prop}
    {legacyActs managerActs : List Event} {x : Traced Int}
    (hnone : ∀ u, ¬ legacy u) (hvalue : ∀ v, x.result = .ok v ↔ v ≠ 0 ∧ manager v)
    (hunwritten : x.result = .error .unwrittenInteger ↔ manager 0 ∨ failure .unwrittenInteger)
    (hfailed : ∀ f, f ≠ .unwrittenInteger → (x.result = .error f ↔ failure f))
    (hacts : x.acts = legacyActs ++ managerActs) :
    StumblesOnZero legacy manager failure legacyActs managerActs x where
  value v := by simp [hvalue v, hnone]
  unwritten := by simp [hunwritten, hnone]
  failed f hf := by simp [hfailed f hf, hnone]
  acts_legacy v hlegacy := absurd hlegacy (hnone v)
  acts_manager _ := hacts

/-- If the legacy contract gives an integer, the manager does not count. -/
theorem StumblesOnZero.of_legacy {legacy manager : Int → Prop} {failure : Fault → Prop}
    {legacyActs managerActs : List Event} {x : Traced Int} {n : Int}
    (hlegacy : ∀ v, legacy v ↔ v = n)
    (hresult : x.result = if n = 0 then .error .unwrittenInteger else .ok n)
    (hacts : x.acts = legacyActs) :
    StumblesOnZero legacy manager failure legacyActs managerActs x := by
  have hsome : ¬ ∀ u, ¬ legacy u := fun h => h n ((hlegacy n).mpr rfl)
  refine ⟨fun v => ?_, ?_, fun f hf => ?_, fun _ _ => hacts, fun h => absurd h hsome⟩
  · by_cases hn : n = 0
    · simp [hresult, hlegacy, hn]
    · simp only [hresult, if_neg hn, Except.ok.injEq, hlegacy]
      constructor
      · rintro rfl
        exact ⟨hn, .inl rfl⟩
      · rintro ⟨-, rfl | ⟨h, -⟩⟩
        · rfl
        · exact absurd rfl (h n)
  · by_cases hn : n = 0
    · simp [hresult, hlegacy, hn]
    · simp [hresult, hlegacy, hn, Ne.symm hn]
  · by_cases hn : n = 0
    · simp [hresult, hsome, hn, Ne.symm hf]
    · simp [hresult, hsome, hn]

/-- That a read gives an integer. -/
def Gives (read : Except Fault Value) (n : Int) : Prop :=
  ∃ v, read = .ok v ∧ v.integer? = some n

theorem gives_iff {read : Except Fault Value} {v : Value} {n : Int} (h : read = .ok v)
    (hn : v.integer? = some n) (m : Int) : Gives read m ↔ m = n := by
  constructor
  · rintro ⟨w, hw, hm⟩
    obtain rfl := Except.ok.inj (h.symm.trans hw)
    exact Option.some.inj (hm.symm.trans hn)
  · rintro rfl
    exact ⟨v, h, hn⟩

theorem not_gives_of_error {read : Except Fault Value} {f : Fault} (h : read = .error f) (n : Int) :
    ¬ Gives read n := by
  rintro ⟨w, hw, -⟩
  exact absurd (h.symm.trans hw) (by simp)

/-- That what a reader reads as chain ids are integers, and that its failures are ordinary. -/
structure ReadsIntegers (r : Reader) : Prop where
  legacy : ∀ v, r.sources.chainId.result = .ok v → ∃ n, v.integer? = some n
  legacy_fails : FailsOrdinarily r.sources.chainId.result
  manager : ∀ v, (r.managerField "chainID").result = .ok v → ∃ n, v.integer? = some n
  manager_fails : FailsOrdinarily (r.managerField "chainID").result

section

variable {r : Reader} (h : ReadsIntegers r)

include h

/-- Where the legacy contract leaves the choice to the manager, the chain id is what the manager
gives. A zero is refused, and a failure of the manager stands. -/
theorem chainId_told_by_manager
    (hnext : (∃ f, r.sources.chainId.result = .error f ∧ f.isStop = false) ∨
      r.rollup.isWritable = true ∧
        ∃ v, r.sources.chainId.result = .ok v ∧ v.integer? = some 0) :
    (∀ m, r.chainId.result = .ok m ↔ m ≠ 0 ∧ Gives (r.managerField "chainID").result m) ∧
      (∀ f, r.chainId.result = .error f ↔
        (Gives (r.managerField "chainID").result 0 ∧ f = .showing .emptyChainId r.rollup) ∨
          (r.managerField "chainID").result = .error f) ∧
      r.chainId.acts = r.sources.chainId.acts ++ (r.sources.rollupData r.rollup).acts := by
  obtain ⟨hvalue, hzero, herror, hacts⟩ := chainId_of_manager hnext
  cases hread : (r.managerField "chainID").result with
  | error g =>
    have hnot := not_gives_of_error hread
    rw [hread] at hnot
    exact ⟨fun m => by simp [herror g hread, hnot], fun f => by simp [herror g hread, hnot], hacts⟩
  | ok v =>
    obtain ⟨n, hn⟩ := h.manager v hread
    have hgives := gives_iff hread hn
    rw [hread] at hgives
    by_cases hne : n = 0
    · subst hne
      exact ⟨fun m => by simp [hzero v hread hn, hgives],
        fun f => by simp [hzero v hread hn, hgives, eq_comm], hacts⟩
    · have hresult := hvalue v n hread hn hne
      refine ⟨fun m => ?_, fun f => by simp [hresult, hgives, Ne.symm hne], hacts⟩
      rw [hresult, hgives, Except.ok.injEq]
      constructor
      · rintro rfl
        exact ⟨hne, rfl⟩
      · rintro ⟨-, rfl⟩
        rfl

/-- Where both reads give integers or fail ordinarily, the chain id of the legacy contract is
preferred. -/
theorem prefersLegacy (hrollup : r.rollup.isWritable = true) :
    PrefersLegacy (Gives r.sources.chainId.result) (Gives (r.managerField "chainID").result)
      (fun f => (r.managerField "chainID").result = .error f) r.rollup r.sources.chainId.acts
      (r.sources.rollupData r.rollup).acts r.chainId := by
  by_cases hgives : ∃ n, n ≠ 0 ∧ Gives r.sources.chainId.result n
  · obtain ⟨n, hn, v, hv, hint⟩ := hgives
    obtain ⟨hresult, hacts⟩ := chainId_of_legacy hv hint hn
    exact .of_legacy hn (gives_iff hv hint) hresult hacts
  · have hnone : ∀ u, Gives r.sources.chainId.result u → u = 0 := by
      intro u hu
      by_contra hne
      exact hgives ⟨u, hne, hu⟩
    have hnext : (∃ f, r.sources.chainId.result = .error f ∧ f.isStop = false) ∨
        r.rollup.isWritable = true ∧
          ∃ v, r.sources.chainId.result = .ok v ∧ v.integer? = some 0 := by
      cases hread : r.sources.chainId.result with
      | error f => exact .inl ⟨f, rfl, Fault.isStop_of_isOrdinary (h.legacy_fails f hread)⟩
      | ok v =>
        obtain ⟨n, hn⟩ := h.legacy v hread
        obtain rfl := hnone n ⟨v, hread, hn⟩
        exact .inr ⟨hrollup, v, rfl, hn⟩
    obtain ⟨hvalue, herror, hacts⟩ := chainId_told_by_manager h hnext
    rw [Fault.showing_of_isWritable _ hrollup] at herror
    refine .of_manager hnone hvalue ?_ (fun f hf => ?_) hacts
    · rw [herror]
      constructor
      · rintro (⟨hzero, -⟩ | hfails)
        · exact hzero
        · have hordinary := h.manager_fails _ hfails
          exact absurd rfl (Fault.ne_emptyChainId_of_isOrdinary hordinary r.rollup)
      · exact fun hzero => .inl ⟨hzero, rfl⟩
    · rw [herror]
      exact or_iff_right fun hempty => hf hempty.2

/-- The same where the id of the rollup cannot be written, but for the zeros. -/
theorem stumblesOnZero (hrollup : r.rollup.isWritable = false) :
    StumblesOnZero (Gives r.sources.chainId.result) (Gives (r.managerField "chainID").result)
      (fun f => (r.managerField "chainID").result = .error f) r.sources.chainId.acts
      (r.sources.rollupData r.rollup).acts r.chainId := by
  cases hlegacy : r.sources.chainId.result with
  | ok v =>
    obtain ⟨n, hn⟩ := h.legacy v hlegacy
    have hgives := gives_iff hlegacy hn
    rw [hlegacy] at hgives
    by_cases hzero : n = 0
    · subst hzero
      obtain ⟨hresult, hacts⟩ := chainId_of_unwritten hlegacy hn hrollup
      exact .of_legacy hgives (hresult.trans (if_pos rfl).symm) hacts
    · obtain ⟨hresult, hacts⟩ := chainId_of_legacy hlegacy hn hzero
      exact .of_legacy hgives (hresult.trans (if_neg hzero).symm) hacts
  | error f =>
    have hnone := not_gives_of_error hlegacy
    rw [hlegacy] at hnone
    have hgo := Fault.isStop_of_isOrdinary (h.legacy_fails f hlegacy)
    obtain ⟨hvalue, herror, hacts⟩ := chainId_told_by_manager h (.inl ⟨f, hlegacy, hgo⟩)
    rw [Fault.showing_of_not_isWritable _ hrollup] at herror
    refine .of_manager hnone hvalue ?_ (fun f' hf' => ?_) hacts
    · rw [herror, and_iff_left rfl]
    · rw [herror]
      exact or_iff_right fun hunwritten => hf' hunwritten.2

/-- Whether the id of the rollup can be written or not, a chain id is not zero and comes from one of
the contracts. -/
theorem source_of_chainId {v : Int} (hv : r.chainId.result = .ok v) :
    v ≠ 0 ∧ (Gives r.sources.chainId.result v ∨ Gives (r.managerField "chainID").result v) := by
  cases hrollup : r.rollup.isWritable with
  | true =>
    obtain ⟨hne, hsource⟩ := ((prefersLegacy h hrollup).value v).mp hv
    exact ⟨hne, hsource.imp id And.right⟩
  | false =>
    obtain ⟨hne, hsource⟩ := ((stumblesOnZero h hrollup).value v).mp hv
    exact ⟨hne, hsource.imp id And.right⟩

end

end Reader

/-! ## Contracts behind a node -/

namespace Chain

/-- That a contract behind a node returns bytes to a call of a function. -/
def Node.Returns (n : Node) (address : Address) (f : Function) (arguments : List Value)
    (bs : List UInt8) : Prop :=
  ∃ data, f.callData? arguments = some data ∧ (n.send address data).result = .ok bs

/-- A call gives a value if its bytes are read as the value. -/
theorem Node.call_eq_ok_iff {n : Node} {address : Address} {f : Function} {arguments : List Value}
    {v : Value} : (n.call address f arguments).result = .ok v ↔
      ∃ bs, n.Returns address f arguments bs ∧ f.answer? bs = some v := by
  have hunread (bs : List UInt8) : (n.failUnread f bs).result ≠ .ok v := by
    unfold failUnread
    split
    · rw [Traced.bind_result]
      cases (n.result "eth_getCode").result with
      | error g => exact fun h => nomatch h
      | ok code =>
        simp only [Except.bind, Traced.bind_result]
        cases (liftM code.toBytes : Traced (List UInt8)).result <;> exact fun h => nomatch h
    · exact fun h => nomatch h
  unfold Node.Returns
  rw [call, Traced.bind_result, Traced.lift_result, Function.callData]
  cases f.callData? arguments with
  | none => simp [Except.bind]
  | some data =>
    simp only [Except.bind, Traced.bind_result]
    cases hsend : (n.send address data).result with
    | error g => simp [hsend]
    | ok bs =>
      cases hanswer : f.answer? bs with
      | none => simp [hsend, hanswer, hunread]
      | some w => simp [hsend, hanswer]

/-- The answer of a function with one output is read as that output. -/
theorem answer?_chainId {bs : List UInt8} {v : Value} (h : chainId.answer? bs = some v) :
    ∃ n : Int, v = .integer n ∧ 0 ≤ n ∧ n < 2 ^ 64 ∧
      Abi.decodeAll chainId.outputs bs = some [.integer n] := by
  unfold Function.answer? at h
  cases hvs : Abi.decodeAll chainId.outputs bs with
  | none => simp [hvs] at h
  | some vs =>
    have hlength : vs.length = 1 := Abi.length_of_decodeAll hvs
    obtain ⟨chunk, w, hw, hdecode⟩ := Abi.exists_decode_of_decodeAll hvs (i := 0) rfl
    obtain ⟨n, rfl, hlow, hhigh⟩ := Abi.bounds_of_decode hdecode
    obtain ⟨u, rfl⟩ := List.length_eq_one_iff.mp hlength
    obtain rfl : u = .integer n := by simpa using hw
    exact ⟨n, by simpa [hvs] using h.symm, hlow, hhigh, rfl⟩

/-- The manager's record of a rollup is read as a tuple, whose second item is a chain id. -/
theorem answer?_rollupData {bs : List UInt8} {v : Value} (h : rollupData.answer? bs = some v) :
    ∃ (vs : List Value) (n : Int), v = .tuple vs ∧ 0 ≤ n ∧ n < 2 ^ 64 ∧
      Abi.decodeAll rollupData.outputs bs = some vs ∧ vs[1]? = some (.integer n) := by
  unfold Function.answer? at h
  cases hvs : Abi.decodeAll rollupData.outputs bs with
  | none => simp [hvs] at h
  | some vs =>
    have hlength : vs.length = 12 := Abi.length_of_decodeAll hvs
    obtain ⟨chunk, w, hw, hdecode⟩ := Abi.exists_decode_of_decodeAll hvs (i := 1) rfl
    obtain ⟨n, rfl, hlow, hhigh⟩ := Abi.bounds_of_decode hdecode
    refine ⟨vs, n, ?_, hlow, hhigh, rfl, hw⟩
    match vs, hlength, hvs with
    | _ :: _ :: _, _, hvs => simpa [hvs] using h.symm

end Chain

namespace Reader

variable {n : Chain.Node} {c : Contracts}

/-- That the legacy contract behind a node gives a chain id. -/
def LegacyGives (n : Chain.Node) (c : Contracts) (id : Int) : Prop :=
  ∃ bs, n.Returns c.legacy Chain.chainId [] bs ∧
    Abi.decodeAll Chain.chainId.outputs bs = some [.integer id]

/-- That the manager behind a node gives a chain id for a rollup. -/
def ManagerGives (n : Chain.Node) (c : Contracts) (rollup : Value) (id : Int) : Prop :=
  ∃ bs vs, n.Returns c.manager Chain.rollupData [rollup] bs ∧
    Abi.decodeAll Chain.rollupData.outputs bs = some vs ∧ vs[1]? = some (.integer id)

/-- What is read from the legacy contract is an integer of 64 bits without a sign. -/
theorem legacy_of_ok {v : Value} (h : (n.call c.legacy Chain.chainId []).result = .ok v) :
    ∃ id : Int, v = .integer id ∧ 0 ≤ id ∧ id < 2 ^ 64 ∧ LegacyGives n c id := by
  obtain ⟨bs, hreturns, hanswer⟩ := Chain.Node.call_eq_ok_iff.mp h
  obtain ⟨id, rfl, hlow, hhigh, hdecode⟩ := Chain.answer?_chainId hanswer
  exact ⟨id, rfl, hlow, hhigh, bs, hreturns, hdecode⟩

theorem gives_legacy_iff (id : Int) :
    Gives (n.call c.legacy Chain.chainId []).result id ↔ LegacyGives n c id := by
  constructor
  · rintro ⟨v, hv, hid⟩
    obtain ⟨id', rfl, -, -, hgives⟩ := legacy_of_ok hv
    obtain rfl : id' = id := Option.some.inj hid
    exact hgives
  · rintro ⟨bs, hreturns, hdecode⟩
    have hanswer : Chain.chainId.answer? bs = some (.integer id) := by
      simp [Chain.Function.answer?, hdecode]
    exact ⟨.integer id, Chain.Node.call_eq_ok_iff.mpr ⟨bs, hreturns, hanswer⟩, rfl⟩

/-- The chain id in a tuple is its second item. -/
theorem rollupField_chainId {vs : List Value} {v : Value} (h : vs[1]? = some v) :
    Chain.rollupField (.tuple vs) (.text "chainID") = .ok v :=
  (Chain.rollupField_of_part? (by decide +kernel : Chain.fieldIndex? "chainID" = some 1)).1 v h

/-- What is read from the manager is an integer of 64 bits without a sign, or the call of the
manager fails. -/
theorem manager_of_call (rollup : Value) :
    (∃ id : Int, (managerField ⟨.ofNode n c, rollup⟩ "chainID").result = .ok (.integer id) ∧
        0 ≤ id ∧ id < 2 ^ 64 ∧ ManagerGives n c rollup id) ∨
      ∃ f, (managerField ⟨.ofNode n c, rollup⟩ "chainID").result = .error f ∧
        (n.call c.manager Chain.rollupData [rollup]).result = .error f := by
  cases hcall : (n.call c.manager Chain.rollupData [rollup]).result with
  | error f => exact .inr ⟨f, managerField_of_error hcall "chainID", rfl⟩
  | ok data =>
    obtain ⟨bs, hreturns, hanswer⟩ := Chain.Node.call_eq_ok_iff.mp hcall
    obtain ⟨vs, id, rfl, hlow, hhigh, hdecode, hid⟩ := Chain.answer?_rollupData hanswer
    exact .inl ⟨id, (managerField_of_ok hcall "chainID").trans (rollupField_chainId hid), hlow,
      hhigh, bs, vs, hreturns, hdecode, hid⟩

theorem gives_manager_iff (rollup : Value) (id : Int) :
    Gives (managerField ⟨.ofNode n c, rollup⟩ "chainID").result id ↔
      ManagerGives n c rollup id := by
  constructor
  · rintro ⟨v, hv, hid⟩
    rcases manager_of_call rollup with ⟨id', hid', -, -, hgives⟩ | ⟨f, hf, -⟩
    · obtain rfl := Except.ok.inj (hv.symm.trans hid')
      obtain rfl : id' = id := Option.some.inj hid
      exact hgives
    · exact absurd (hv.symm.trans hf) (by simp)
  · rintro ⟨bs, vs, hreturns, hdecode, hid⟩
    have hlength : vs.length = 12 := Abi.length_of_decodeAll hdecode
    have hanswer : Chain.rollupData.answer? bs = some (.tuple vs) := by
      match vs, hlength, hdecode with
      | _ :: _ :: _, _, hdecode => simp [Chain.Function.answer?, hdecode]
    have hcall : ((Sources.ofNode n c).rollupData rollup).result = .ok (.tuple vs) :=
      Chain.Node.call_eq_ok_iff.mpr ⟨bs, hreturns, hanswer⟩
    exact ⟨.integer id, (managerField_of_ok hcall "chainID").trans (rollupField_chainId hid), rfl⟩

theorem manager_eq_error_iff (rollup : Value) (f : Fault) :
    (managerField ⟨.ofNode n c, rollup⟩ "chainID").result = .error f ↔
      (n.call c.manager Chain.rollupData [rollup]).result = .error f := by
  constructor
  · intro h
    rcases manager_of_call rollup with ⟨id, hid, -⟩ | ⟨g, hg, hcall⟩
    · exact absurd (h.symm.trans hid) (by simp)
    · obtain rfl := Except.error.inj (h.symm.trans hg)
      exact hcall
  · intro h
    have hcall : ((Sources.ofNode n c).rollupData rollup).result = .error f := h
    exact managerField_of_error hcall "chainID"

theorem gives_legacy_eq :
    Gives (n.call c.legacy Chain.chainId []).result = LegacyGives n c :=
  funext fun id => propext (gives_legacy_iff id)

theorem gives_manager_eq (rollup : Value) :
    Gives (managerField ⟨.ofNode n c, rollup⟩ "chainID").result = ManagerGives n c rollup :=
  funext fun id => propext (gives_manager_iff rollup id)

theorem manager_eq_error_eq (rollup : Value) :
    (fun f => (managerField ⟨.ofNode n c, rollup⟩ "chainID").result = .error f) =
      fun f => (n.call c.manager Chain.rollupData [rollup]).result = .error f :=
  funext fun f => propext (manager_eq_error_iff rollup f)

section

variable (hn : n.RaisesOrdinarily) (rollup : Value)

include hn

theorem readsIntegers_ofNode : ReadsIntegers ⟨.ofNode n c, rollup⟩ where
  legacy v hv := by
    obtain ⟨id, rfl, -⟩ := legacy_of_ok hv
    exact ⟨id, rfl⟩
  legacy_fails := Chain.Node.call_fails hn _ _ _
  manager v hv := by
    rcases manager_of_call rollup with ⟨id, hid, -⟩ | ⟨f, hf, -⟩
    · exact ⟨id, by rw [Except.ok.inj (hv.symm.trans hid)]; rfl⟩
    · exact absurd (hv.symm.trans hf) (by simp)
  manager_fails f hf :=
    Chain.Node.call_fails hn _ _ _ f ((manager_eq_error_iff rollup f).mp hf)

/-- The chain id of the contracts behind a node is that of the legacy contract, if that gives
one. -/
theorem prefersLegacy_ofNode (hrollup : rollup.isWritable = true) :
    PrefersLegacy (LegacyGives n c) (ManagerGives n c rollup)
      (fun f => (n.call c.manager Chain.rollupData [rollup]).result = .error f) rollup
      (n.call c.legacy Chain.chainId []).acts (n.call c.manager Chain.rollupData [rollup]).acts
      (chainId ⟨.ofNode n c, rollup⟩) := by
  rw [← gives_legacy_eq, ← gives_manager_eq, ← manager_eq_error_eq]
  exact prefersLegacy (readsIntegers_ofNode hn rollup) hrollup

theorem stumblesOnZero_ofNode (hrollup : rollup.isWritable = false) :
    StumblesOnZero (LegacyGives n c) (ManagerGives n c rollup)
      (fun f => (n.call c.manager Chain.rollupData [rollup]).result = .error f)
      (n.call c.legacy Chain.chainId []).acts (n.call c.manager Chain.rollupData [rollup]).acts
      (chainId ⟨.ofNode n c, rollup⟩) := by
  rw [← gives_legacy_eq, ← gives_manager_eq, ← manager_eq_error_eq]
  exact stumblesOnZero (readsIntegers_ofNode hn rollup) hrollup

/-- A chain id from the contracts behind a node has 64 bits and no sign, and is not zero. -/
theorem bounds_chainId_ofNode {id : Int}
    (h : (chainId ⟨.ofNode n c, rollup⟩).result = .ok id) : 1 ≤ id ∧ id < 2 ^ 64 := by
  obtain ⟨hne, hsource⟩ := source_of_chainId (readsIntegers_ofNode hn rollup) h
  have hbounds : 0 ≤ id ∧ id < 2 ^ 64 := by
    rcases hsource with ⟨v, hv, hid⟩ | ⟨v, hv, hid⟩
    · obtain ⟨id', rfl, hlow, hhigh, -⟩ := legacy_of_ok hv
      obtain rfl : id' = id := Option.some.inj hid
      exact ⟨hlow, hhigh⟩
    · rcases manager_of_call rollup with ⟨id', hid', hlow, hhigh, -⟩ | ⟨f, hf, -⟩
      · obtain rfl := Except.ok.inj (hv.symm.trans hid')
        obtain rfl : id' = id := Option.some.inj hid
        exact ⟨hlow, hhigh⟩
      · exact absurd (hv.symm.trans hf) (by simp)
  omega

end

/-- An id that is no unsigned integer of 32 bits is not asked for. -/
theorem call_rollupData_of_wide (n : Chain.Node) (address : Address) {id : Int}
    (h : id < 0 ∨ 2 ^ 32 ≤ id) : n.call address Chain.rollupData [.integer id] =
      Traced.fail (.showing (fun _ => .mismatch (Chain.rollupData.mismatch [.integer id]))
        (.list [.integer id])) := by
  have hdata : Chain.rollupData.callData? [.integer id] = none := by
    have hencode : Abi.encode (.uint 32) (.integer id) = none := by
      rw [Abi.encode, if_neg]
      omega
    simp [Chain.Function.callData?, Chain.rollupData, Abi.encodeAll, hencode]
  exact Chain.Node.call_of_mismatch hdata n address

/-- The fault that it is refused with shows the id. -/
theorem call_rollupData_of_mismatch (n : Chain.Node) (address : Address) {id : Int}
    (h : id < 0 ∨ 2 ^ 32 ≤ id) (hshort : id.natAbs < 10 ^ Text.maxIntegerDigits) :
    n.call address Chain.rollupData [.integer id] =
      Traced.fail (.mismatch (Chain.rollupData.mismatch [.integer id])) := by
  have hwritable : (Value.list [.integer id]).isWritable = true := by
    rwa [Value.isWritable_list_iff, List.forall_mem_singleton, Value.isWritable_integer_iff]
  rw [call_rollupData_of_wide n address h, Fault.showing_of_isWritable _ hwritable]

/-- An id that cannot be shown is not asked for either. -/
theorem call_rollupData_of_unwritten (n : Chain.Node) (address : Address) {id : Int}
    (hlong : 10 ^ Text.maxIntegerDigits ≤ id.natAbs) :
    n.call address Chain.rollupData [.integer id] = Traced.fail .unwrittenInteger := by
  have hpower : 10 ^ 10 ≤ 10 ^ Text.maxIntegerDigits :=
    Nat.pow_le_pow_right (by decide) (by decide)
  have hwide : id < 0 ∨ 2 ^ 32 ≤ id := by omega
  have hwritable : (Value.list [.integer id]).isWritable = false := by
    refine Bool.eq_false_iff.mpr fun h => ?_
    have hid := Value.isWritable_list_iff.mp h (.integer id) List.mem_cons_self
    exact Nat.not_lt.mpr hlong (Value.isWritable_integer_iff.mp hid)
  rw [call_rollupData_of_wide n address hwide, Fault.showing_of_not_isWritable _ hwritable]

end Reader

/-! ## Contracts whose answers are given -/

namespace Handlers

variable (handlers : Handlers)

/-- That the legacy contract gives an integer, or a truth value, as a chain id. -/
def LegacyGives (id : Int) : Prop :=
  ∃ v, handlers "legacy" "chainID" = some (.ok v) ∧ v.integer? = some id

/-- That the manager gives an integer, or a truth value, as a chain id. -/
def ManagerGives (id : Int) : Prop :=
  ∃ data v, handlers "manager" "rollupIDToRollupData" = some (.ok data) ∧
    Chain.rollupField data (.text "chainID") = .ok v ∧ v.integer? = some id

/-- That the chain id is not read from the manager: it has no such function, or its function fails,
or its answer has no such field. -/
def ManagerFails (f : Fault) : Prop :=
  handlers "manager" "rollupIDToRollupData" = none ∧
      f = .missingFunction "rollupIDToRollupData" ∨
    handlers "manager" "rollupIDToRollupData" = some (.error f) ∨
    ∃ data, handlers "manager" "rollupIDToRollupData" = some (.ok data) ∧
      Chain.rollupField data (.text "chainID") = .error f

/-- That chain ids which are read are integers or truth values, and failures are ordinary. -/
structure GivesIntegers : Prop where
  legacy : ∀ v, handlers "legacy" "chainID" = some (.ok v) → ∃ n, v.integer? = some n
  manager : ∀ data v, handlers "manager" "rollupIDToRollupData" = some (.ok data) →
    Chain.rollupField data (.text "chainID") = .ok v → ∃ n, v.integer? = some n
  ordinary : ∀ callee function f, handlers callee function = some (.error f) →
    f.isOrdinary = true

end Handlers

namespace Reader

variable {handlers : Handlers}

/-- What the manager gives for a field, or fails with, comes from its handler. -/
theorem managerField_of_handlers (rollup : Value) (r : Except Fault Value) :
    (managerField ⟨handlers.sources, rollup⟩ "chainID").result = r ↔
      (handlers "manager" "rollupIDToRollupData" = none ∧
          r = .error (.missingFunction "rollupIDToRollupData")) ∨
        (∃ f, handlers "manager" "rollupIDToRollupData" = some (.error f) ∧ r = .error f) ∨
        ∃ data, handlers "manager" "rollupIDToRollupData" = some (.ok data) ∧
          Chain.rollupField data (.text "chainID") = r := by
  have hcall : ((handlers.sources).rollupData rollup).result = _ := handlers.call_result _ _ _
  cases houtcome : handlers "manager" "rollupIDToRollupData" with
  | none =>
    rw [houtcome] at hcall
    rw [managerField_of_error hcall]
    simp [eq_comm]
  | some outcome =>
    rw [houtcome] at hcall
    cases outcome with
    | error f =>
      rw [managerField_of_error hcall]
      simp [eq_comm]
    | ok data =>
      rw [managerField_of_ok hcall]
      simp

theorem legacy_eq_ok_iff_of_handlers (v : Value) : handlers.sources.chainId.result = .ok v ↔
    handlers "legacy" "chainID" = some (.ok v) := by
  have hcall : handlers.sources.chainId.result = _ := handlers.call_result "legacy" "chainID" []
  rw [hcall]
  cases handlers "legacy" "chainID" <;> simp

theorem manager_eq_ok_iff_of_handlers (rollup v : Value) :
    (managerField ⟨handlers.sources, rollup⟩ "chainID").result = .ok v ↔
      ∃ data, handlers "manager" "rollupIDToRollupData" = some (.ok data) ∧
        Chain.rollupField data (.text "chainID") = .ok v := by
  rw [managerField_of_handlers]
  simp

theorem manager_eq_error_iff_of_handlers (rollup : Value) (f : Fault) :
    (managerField ⟨handlers.sources, rollup⟩ "chainID").result = .error f ↔
      handlers.ManagerFails f := by
  rw [managerField_of_handlers, Handlers.ManagerFails]
  simp

section

variable (hgives : handlers.GivesIntegers)

include hgives

theorem legacy_fails_of_handlers : FailsOrdinarily handlers.sources.chainId.result := by
  intro f hf
  have hcall : handlers.sources.chainId.result = _ := handlers.call_result "legacy" "chainID" []
  rw [hcall] at hf
  cases houtcome : handlers "legacy" "chainID" with
  | none =>
    rw [houtcome] at hf
    exact Except.error.inj hf ▸ rfl
  | some outcome =>
    rw [houtcome] at hf
    exact hgives.ordinary _ _ f (houtcome.trans (congrArg some hf))

theorem manager_fails_of_handlers (rollup : Value) :
    FailsOrdinarily (managerField ⟨handlers.sources, rollup⟩ "chainID").result := by
  intro f hf
  rcases (manager_eq_error_iff_of_handlers rollup f).mp hf with ⟨-, rfl⟩ | hraised |
    ⟨data, -, hfield⟩
  · rfl
  · exact hgives.ordinary _ _ f hraised
  · exact Chain.rollupField_fails _ _ f hfield

theorem readsIntegers_ofHandlers (rollup : Value) : ReadsIntegers ⟨handlers.sources, rollup⟩ where
  legacy v hv := hgives.legacy v ((legacy_eq_ok_iff_of_handlers v).mp hv)
  legacy_fails := legacy_fails_of_handlers hgives
  manager v hv := by
    obtain ⟨data, hdata, hfield⟩ := (manager_eq_ok_iff_of_handlers rollup v).mp hv
    exact hgives.manager data v hdata hfield
  manager_fails := manager_fails_of_handlers hgives rollup

end

theorem gives_legacy_eq_of_handlers :
    Gives handlers.sources.chainId.result = handlers.LegacyGives :=
  funext fun _ => propext
    (exists_congr fun v => and_congr_left fun _ => legacy_eq_ok_iff_of_handlers v)

theorem gives_manager_eq_of_handlers (rollup : Value) :
    Gives (managerField ⟨handlers.sources, rollup⟩ "chainID").result =
      handlers.ManagerGives := by
  funext id
  refine propext ⟨?_, ?_⟩
  · rintro ⟨v, hv, hid⟩
    obtain ⟨data, hdata, hfield⟩ := (manager_eq_ok_iff_of_handlers rollup v).mp hv
    exact ⟨data, v, hdata, hfield, hid⟩
  · rintro ⟨data, v, hdata, hfield, hid⟩
    exact ⟨v, (manager_eq_ok_iff_of_handlers rollup v).mpr ⟨data, hdata, hfield⟩, hid⟩

theorem manager_eq_error_eq_of_handlers (rollup : Value) :
    (fun f => (managerField ⟨handlers.sources, rollup⟩ "chainID").result = .error f) =
      handlers.ManagerFails :=
  funext fun f => propext (manager_eq_error_iff_of_handlers rollup f)

section

variable (hgives : handlers.GivesIntegers) (rollup : Value)

include hgives

/-- The chain id of contracts whose answers are given is that of the legacy contract, if that gives
one. -/
theorem prefersLegacy_ofHandlers (hrollup : rollup.isWritable = true) :
    PrefersLegacy handlers.LegacyGives handlers.ManagerGives handlers.ManagerFails rollup
      (handlers.callOf "legacy" "chainID" [])
      (handlers.callOf "manager" "rollupIDToRollupData" [rollup])
      (chainId ⟨handlers.sources, rollup⟩) := by
  rw [← gives_legacy_eq_of_handlers, ← gives_manager_eq_of_handlers rollup,
    ← manager_eq_error_eq_of_handlers rollup, ← Handlers.call_acts, ← Handlers.call_acts]
  exact prefersLegacy (readsIntegers_ofHandlers hgives rollup) hrollup

theorem stumblesOnZero_ofHandlers (hrollup : rollup.isWritable = false) :
    StumblesOnZero handlers.LegacyGives handlers.ManagerGives handlers.ManagerFails
      (handlers.callOf "legacy" "chainID" [])
      (handlers.callOf "manager" "rollupIDToRollupData" [rollup])
      (chainId ⟨handlers.sources, rollup⟩) := by
  rw [← gives_legacy_eq_of_handlers, ← gives_manager_eq_of_handlers rollup,
    ← manager_eq_error_eq_of_handlers rollup, ← Handlers.call_acts, ← Handlers.call_acts]
  exact stumblesOnZero (readsIntegers_ofHandlers hgives rollup) hrollup

/-- A chain id is not zero and was given by one of the contracts. -/
theorem source_of_handlers {v : Int} (hv : (chainId ⟨handlers.sources, rollup⟩).result = .ok v) :
    v ≠ 0 ∧ (handlers.LegacyGives v ∨ handlers.ManagerGives v) := by
  rw [← gives_legacy_eq_of_handlers, ← gives_manager_eq_of_handlers rollup]
  exact source_of_chainId (readsIntegers_ofHandlers hgives rollup) hv

end

/-- A chain id is never zero and comes from the right contract. Behind a node whose failures on the
way are ordinary it has 64 bits and no sign, whatever the node replies; an id of a rollup that does
not fit is refused without a request. Of contracts whose answers are given it has as many bits as
their answers. So it is for all ids of rollups that can be written; for the others it is so but for
zeros, and the manager behind a node is not asked. -/
theorem chainId_prefersLegacy :
    (∀ (n : Chain.Node) (c : Contracts) (id : Int), n.RaisesOrdinarily →
      (id.natAbs < 10 ^ Text.maxIntegerDigits →
        PrefersLegacy (LegacyGives n c) (ManagerGives n c (.integer id))
            (fun f => (n.call c.manager Chain.rollupData [.integer id]).result = .error f)
            (.integer id) (n.call c.legacy Chain.chainId []).acts
            (n.call c.manager Chain.rollupData [.integer id]).acts
            (chainId ⟨.ofNode n c, .integer id⟩) ∧
          (id < 0 ∨ 2 ^ 32 ≤ id → n.call c.manager Chain.rollupData [.integer id] =
            Traced.fail (.mismatch (Chain.rollupData.mismatch [.integer id])))) ∧
      (10 ^ Text.maxIntegerDigits ≤ id.natAbs →
        StumblesOnZero (LegacyGives n c) (ManagerGives n c (.integer id))
            (fun f => (n.call c.manager Chain.rollupData [.integer id]).result = .error f)
            (n.call c.legacy Chain.chainId []).acts
            (n.call c.manager Chain.rollupData [.integer id]).acts
            (chainId ⟨.ofNode n c, .integer id⟩) ∧
          n.call c.manager Chain.rollupData [.integer id] = Traced.fail .unwrittenInteger) ∧
      ∀ v, (chainId ⟨.ofNode n c, .integer id⟩).result = .ok v → 1 ≤ v ∧ v < 2 ^ 64) ∧
      ∀ (answers : Answers) (rollup : Value), Handlers.GivesIntegers answers.outcome? →
        (rollup.isWritable = true →
          PrefersLegacy (Handlers.LegacyGives answers.outcome?)
            (Handlers.ManagerGives answers.outcome?) (Handlers.ManagerFails answers.outcome?) rollup
            (Handlers.callOf answers.outcome? "legacy" "chainID" [])
            (Handlers.callOf answers.outcome? "manager" "rollupIDToRollupData" [rollup])
            (chainId ⟨answers.sources, rollup⟩)) ∧
        (rollup.isWritable = false →
          StumblesOnZero (Handlers.LegacyGives answers.outcome?)
            (Handlers.ManagerGives answers.outcome?) (Handlers.ManagerFails answers.outcome?)
            (Handlers.callOf answers.outcome? "legacy" "chainID" [])
            (Handlers.callOf answers.outcome? "manager" "rollupIDToRollupData" [rollup])
            (chainId ⟨answers.sources, rollup⟩)) ∧
        ((∀ v, Handlers.LegacyGives answers.outcome? v ∨
            Handlers.ManagerGives answers.outcome? v → 0 ≤ v ∧ v < 2 ^ 64) →
          ∀ v, (chainId ⟨answers.sources, rollup⟩).result = .ok v → 1 ≤ v ∧ v < 2 ^ 64) := by
  refine ⟨fun n c id hn => ⟨fun hshort => ⟨?_, fun hwide => ?_⟩, fun hlong => ⟨?_, ?_⟩,
    fun v hv => bounds_chainId_ofNode hn _ hv⟩, fun answers rollup hgives => ⟨?_, ?_, ?_⟩⟩
  · exact prefersLegacy_ofNode hn _ (Value.isWritable_integer_iff.mpr hshort)
  · exact call_rollupData_of_mismatch n c.manager hwide hshort
  · exact stumblesOnZero_ofNode hn _ (Value.isWritable_integer_eq_false_iff.mpr hlong)
  · exact call_rollupData_of_unwritten n c.manager hlong
  · exact prefersLegacy_ofHandlers hgives rollup
  · exact stumblesOnZero_ofHandlers hgives rollup
  · intro hbounds v hv
    obtain ⟨hne, hsource⟩ := source_of_handlers hgives rollup hv
    have hv := hbounds v hsource
    omega

theorem natAbs_power (digits : Nat) : (10 ^ digits : Int).natAbs = 10 ^ digits :=
  Int.natAbs_pow 10 digits

/-- Behind a node that knows no method an id of 33 bits is a mismatch, and a false chain id of the
legacy contract leaves the choice to the manager, unless the id of the rollup cannot be written. -/
theorem chainId_prefersLegacy_silent :
    let n : Chain.Node := ⟨[], []⟩
    let a : Address := ⟨List.replicate 20 0, rfl⟩
    let answers : Answers := [(("legacy", "chainID"), .ok (.truth false)),
      (("manager", "rollupIDToRollupData"), .ok (.record [("chainID", .integer 7)]))]
    let endless : Int := 10 ^ Text.maxIntegerDigits
    n.RaisesOrdinarily ∧ Handlers.GivesIntegers answers.outcome? ∧
      (chainId ⟨.ofNode n ⟨a, a⟩, .integer (2 ^ 32)⟩).result =
        .error (.mismatch (Chain.rollupData.mismatch [.integer (2 ^ 32)])) ∧
      (chainId ⟨.ofNode n ⟨a, a⟩, .integer endless⟩).result = .error .unwrittenInteger ∧
      (chainId ⟨answers.sources, .integer 1⟩).result = .ok 7 ∧
      (chainId ⟨answers.sources, .integer endless⟩).result = .error .unwrittenInteger := by
  intro n a answers endless
  have hn : n.RaisesOrdinarily := ⟨by simp [n], by simp [n]⟩
  have hgives : Handlers.GivesIntegers answers.outcome? := by
    refine ⟨fun v hv => ?_, fun data v hdata hfield => ?_, fun callee function f hf => ?_⟩
    · obtain rfl : Value.truth false = v := Except.ok.inj (Option.some.inj hv)
      exact ⟨0, rfl⟩
    · obtain rfl : Value.record [("chainID", .integer 7)] = data :=
        Except.ok.inj (Option.some.inj hdata)
      obtain rfl : Value.integer 7 = v := Except.ok.inj hfield
      exact ⟨7, rfl⟩
    · obtain ⟨answer, hfind, houtcome⟩ := Option.map_eq_some_iff.mp hf
      have hmem := List.mem_of_find?_eq_some hfind
      simp only [answers, List.mem_cons, List.not_mem_nil, or_false] at hmem
      rcases hmem with rfl | rfl <;> exact nomatch houtcome
  have hsmall {m : Int} (hm : m.natAbs < 10 ^ 10) : (Value.integer m).isWritable = true :=
    Value.isWritable_of_natAbs_lt hm (by decide)
  have hshort := Value.isWritable_integer_iff.mp (hsmall (by decide : (2 ^ 32 : Int).natAbs < _))
  have hlong : 10 ^ Text.maxIntegerDigits ≤ endless.natAbs := (natAbs_power _).ge
  obtain ⟨hprefers, hmismatch⟩ := (chainId_prefersLegacy.1 n ⟨a, a⟩ (2 ^ 32) hn).1 hshort
  obtain ⟨hstumbles, hunasked⟩ := (chainId_prefersLegacy.1 n ⟨a, a⟩ endless hn).2.1 hlong
  have hanswers := (chainId_prefersLegacy.2 answers (.integer 1) hgives).1 (hsmall (by decide))
  have hzero := (chainId_prefersLegacy.2 answers (.integer endless) hgives).2.1
    (Value.isWritable_integer_eq_false_iff.mpr hlong)
  have hnone : ∀ u, ¬ LegacyGives n ⟨a, a⟩ u := by
    rintro u ⟨bs, ⟨data, -, hsend⟩, -⟩
    exact nomatch hsend
  have hmanager : (n.call a Chain.rollupData [.integer (2 ^ 32)]).result =
      .error (.mismatch (Chain.rollupData.mismatch [.integer (2 ^ 32)])) := by
    rw [hmismatch (.inr (by decide))]
    rfl
  have hmanager' : (n.call a Chain.rollupData [.integer endless]).result =
      .error .unwrittenInteger := by
    rw [hunasked]
    rfl
  have hlegacy : ∀ u, Handlers.LegacyGives answers.outcome? u → u = 0 := by
    rintro u ⟨v, hv, hu⟩
    obtain rfl : Value.truth false = v := Except.ok.inj (Option.some.inj hv)
    exact (Option.some.inj hu).symm
  have hfault : Fault.mismatch (Chain.rollupData.mismatch [.integer (2 ^ 32)]) ≠
      .emptyChainId (.integer (2 ^ 32)) := nofun
  exact ⟨hn, hgives, (hprefers.failed _ hfault).mpr ⟨fun u hu => absurd hu (hnone u), hmanager⟩,
    hstumbles.unwritten.mpr (.inr ⟨hnone, .inr hmanager'⟩),
    (hanswers.value 7).mpr ⟨by decide, .inr ⟨hlegacy, _, _, rfl, rfl, rfl⟩⟩,
    hzero.unwritten.mpr (.inl ⟨_, rfl, rfl⟩)⟩

/-- A negative chain id that is given is passed on. A given zero ends the read, and leaves the
manager alone, if the id of the rollup cannot be written. -/
theorem chainId_of_negative :
    (chainId ⟨Answers.sources [(("legacy", "chainID"), .ok (.integer (-5)))], .integer 1⟩).result =
        .ok (-5) ∧ ¬ (1 ≤ (-5 : Int) ∧ (-5 : Int) < 2 ^ 64) ∧
      let answers : Answers := [(("legacy", "chainID"), .ok (.integer 0)),
        (("manager", "rollupIDToRollupData"), .ok (.record [("chainID", .integer 7)]))]
      let endless : Value := .integer (10 ^ Text.maxIntegerDigits)
      (chainId ⟨answers.sources, endless⟩).result = .error .unwrittenInteger ∧
        (chainId ⟨answers.sources, endless⟩).acts = [.called "legacy" "chainID" []] := by
  refine ⟨rfl, by decide, ?_⟩
  intro answers endless
  have hendless : endless.isWritable = false := by
    rw [Value.isWritable_integer_eq_false_iff]
    exact (natAbs_power _).ge
  exact chainId_of_unwritten (r := ⟨answers.sources, endless⟩) rfl rfl hendless

end Reader

end BatchFrontier
