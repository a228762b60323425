import BatchFrontier.Proofs.ProviderOrder
import BatchFrontier.Reader

/-!
# What a reader makes of its reads

Where reads give integers, the last verified batch is what the manager says, and what the legacy
contract says if the manager cannot be read. The chain id is what the legacy contract says, and what
the manager says if the legacy contract cannot be read or says zero; a zero of the manager's is
refused. The refusal shows the id of the rollup, and if that cannot be written, a zero of either
contract ends the read.
-/

namespace BatchFrontier

namespace Value

theorem toInteger_of_integer? {v : Value} {n : Int} (h : v.integer? = some n) :
    v.toInteger = .ok n := by
  cases v with
  | truth b => simpa [toInteger, integer?] using h
  | integer m => simpa [toInteger, integer?] using h
  | _ => simp [integer?] at h

theorem equals_of_integer? {v : Value} {m : Int} (h : v.integer? = some m) (n : Int) :
    v.equals (.integer n) = (m == n) := by
  cases v with
  | truth b => simp_all [equals, integer?]
  | integer k => simp_all [equals, integer?]
  | _ => simp [integer?] at h

/-- The value under a name in a record, or at an index in a sequence. -/
def part? (name : Text) (i : Nat) : Value → Option Value
  | .tuple items | .list items => items[i]?
  | .record fields => field? fields name
  | _ => none

/-- Whether a value is a sequence, a record or nothing. -/
def isCompound : Value → Bool
  | .nothing | .tuple _ | .list _ | .record _ => true
  | _ => false

end Value

namespace Chain

/-- A field that the manager knows is the part under its name or at its place; without that part it
is not read. -/
theorem rollupField_of_part? {name : Text} {i : Nat} (hi : fieldIndex? name = some i)
    {data : Value} :
    (∀ v, data.part? name i = some v → rollupField data (.text name) = .ok v) ∧
      (data.isCompound = true → data.part? name i = none →
        ∃ f, rollupField data (.text name) = .error f ∧ f.isStop = false) := by
  have hkey : (Value.text name).isKey = true := rfl
  cases data with
  | record fields => cases hfield : Value.field? fields name <;>
      simp [rollupField, Value.part?, hkey, hfield, Fault.isStop]
  | tuple items => cases hitem : items[i]? <;>
      simp [rollupField, hi, Value.item, Value.item.pick, Value.part?, hitem, Fault.isStop]
  | list items => cases hitem : items[i]? <;>
      simp [rollupField, hi, Value.item, Value.item.pick, Value.part?, hitem, Fault.isStop]
  | nothing => simp [rollupField, hi, Value.item, Value.part?, Fault.isStop]
  | _ => simp [Value.part?, Value.isCompound]

end Chain

namespace Reader

variable {r : Reader} {v : Value} {n : Int} {f : Fault}

/-- A field is read from what the manager says of the rollup, and reading it does nothing more. -/
theorem managerField_result (r : Reader) (name : String) : (r.managerField name).result =
    (r.sources.rollupData r.rollup).result.bind fun data =>
      Chain.rollupField data (.text name) := Traced.bind_result _ _

theorem managerField_of_ok {data : Value} (h : (r.sources.rollupData r.rollup).result = .ok data)
    (name : String) : (r.managerField name).result = Chain.rollupField data (.text name) := by
  rw [managerField_result, h]
  rfl

theorem managerField_of_error (h : (r.sources.rollupData r.rollup).result = .error f)
    (name : String) : (r.managerField name).result = .error f := by
  rw [managerField_result, h]
  rfl

theorem managerField_acts (r : Reader) (name : String) :
    (r.managerField name).acts = (r.sources.rollupData r.rollup).acts := by
  unfold managerField
  cases h : (r.sources.rollupData r.rollup).result with
  | error f => exact Traced.acts_bind_of_error _ h
  | ok data => rw [Traced.acts_bind_of_ok _ h, Traced.acts_lift, List.append_nil]

/-- An integer that is resolved is the answer. -/
theorem resolved_integer {x : Traced Value} (h : x.result = .ok v) (hv : v.integer? = some n) :
    (x >>= fun v => liftM v.toInteger : Traced Int).result = .ok n := by
  rw [Traced.bind_result, h]
  exact Value.toInteger_of_integer? hv

/-- A failed resolution is the answer. -/
theorem resolved_error {x : Traced Value} (h : x.result = .error f) :
    (x >>= fun v => liftM v.toInteger : Traced Int).result = .error f := by
  rw [Traced.bind_result, h]
  rfl

/-- Making an integer of what is resolved does nothing more. -/
theorem resolved_acts (x : Traced Value) :
    (x >>= fun v => liftM v.toInteger : Traced Int).acts = x.acts := by
  cases h : x.result with
  | error f => exact Traced.acts_bind_of_error _ h
  | ok v => rw [Traced.acts_bind_of_ok _ h, Traced.acts_lift, List.append_nil]

/-! ## The last verified batch -/

theorem outcome_rejectNone (p : Provider) : p.outcome Provider.rejectNone = p.read.result := by
  unfold Provider.outcome
  cases p.read.result <;> rfl

/-- The last verified batch is what the manager says, and the legacy contract is left alone. -/
theorem latestVerifiedBatch_of_manager (h : (r.managerField "lastVerifiedBatch").result = .ok v)
    (hv : v.integer? = some n) :
    r.latestVerifiedBatch.result = .ok n ∧
      r.latestVerifiedBatch.acts = (r.sources.rollupData r.rollup).acts := by
  obtain ⟨hresult, hacts⟩ := Provider.resolve_pair_of_ok (.text "lastVerifiedBatch")
    ⟨"legacyRollup", r.sources.lastVerifiedBatch⟩
    ((outcome_rejectNone ⟨"rollupManager", r.managerField "lastVerifiedBatch"⟩).trans h)
  refine ⟨resolved_integer hresult hv, ?_⟩
  exact (resolved_acts _).trans (hacts.trans (r.managerField_acts _))

/-- The last verified batch is what the legacy contract says, if the manager cannot be read. -/
theorem latestVerifiedBatch_of_legacy
    (h : (r.managerField "lastVerifiedBatch").result = .error f) (hs : f.isStop = false) :
    (∀ v n, r.sources.lastVerifiedBatch.result = .ok v → v.integer? = some n →
        r.latestVerifiedBatch.result = .ok n) ∧
      (∀ g, r.sources.lastVerifiedBatch.result = .error g →
        r.latestVerifiedBatch.result = .error g) ∧
      r.latestVerifiedBatch.acts =
        (r.sources.rollupData r.rollup).acts ++ r.sources.lastVerifiedBatch.acts := by
  have hfails : Provider.FailsWith Provider.rejectNone
      ⟨"rollupManager", r.managerField "lastVerifiedBatch"⟩ f := .of_read h hs
  obtain ⟨hresult, hacts⟩ := Provider.resolve_pair_of_failsWith (.text "lastVerifiedBatch")
    ⟨"legacyRollup", r.sources.lastVerifiedBatch⟩ hfails
  rw [outcome_rejectNone] at hresult
  refine ⟨fun v n hv hn => resolved_integer (hresult.trans hv) hn,
    fun g hg => resolved_error (hresult.trans hg), ?_⟩
  rw [← r.managerField_acts "lastVerifiedBatch"]
  exact (resolved_acts _).trans hacts

/-! ## The chain id -/

/-- A zero is rejected, if the rejection can be written. -/
theorem run_rejectZero_of_zero (rollup : Value) (hzero : v.integer? = some 0) :
    (rejectZero rollup).run v =
      if rollup.isWritable then .ok (some (.emptyChainId rollup))
      else .error .unwrittenInteger := by
  have hequals : v.equals (.integer 0) = true := Value.equals_of_integer? hzero 0
  simp only [rejectZero, hequals, if_true]

/-- An integer that is read is accepted as a chain id unless it is zero. -/
theorem outcome_rejectZero {p : Provider} (h : p.read.result = .ok v) (hv : v.integer? = some n)
    (rollup : Value) : p.outcome (rejectZero rollup) =
      if n = 0 then .error (.showing .emptyChainId rollup) else .ok v := by
  rw [Provider.outcome, h, Except.bind, Provider.judge]
  by_cases hn : n = 0
  · subst hn
    rw [run_rejectZero_of_zero rollup hv, if_pos rfl, Fault.showing]
    cases rollup.isWritable <;> rfl
  · simp [rejectZero, Value.equals_of_integer? hv, hn]

theorem outcome_rejectZero_of_error {p : Provider} (h : p.read.result = .error f)
    (rollup : Value) : p.outcome (rejectZero rollup) = .error f := by
  unfold Provider.outcome
  rw [h]
  rfl

/-- The chain id is what the legacy contract says, and the manager is left alone. -/
theorem chainId_of_legacy (h : r.sources.chainId.result = .ok v) (hv : v.integer? = some n)
    (hn : n ≠ 0) :
    r.chainId.result = .ok n ∧ r.chainId.acts = r.sources.chainId.acts := by
  have houtcome : (Provider.outcome (rejectZero r.rollup) ⟨"legacyRollup", r.sources.chainId⟩) =
      .ok v := by
    rw [outcome_rejectZero h hv, if_neg hn]
  obtain ⟨hresult, hacts⟩ := Provider.resolve_pair_of_ok (.text "chainID")
    ⟨"rollupManager", r.managerField "chainID"⟩ houtcome
  exact ⟨resolved_integer hresult hv, (resolved_acts _).trans hacts⟩

/-- The chain id is what the manager says, if the legacy contract gives none. -/
theorem chainId_of_manager
    (h : (∃ f, r.sources.chainId.result = .error f ∧ f.isStop = false) ∨
      r.rollup.isWritable = true ∧
        ∃ v, r.sources.chainId.result = .ok v ∧ v.integer? = some 0) :
    (∀ v n, (r.managerField "chainID").result = .ok v → v.integer? = some n → n ≠ 0 →
        r.chainId.result = .ok n) ∧
      (∀ v, (r.managerField "chainID").result = .ok v → v.integer? = some 0 →
        r.chainId.result = .error (.showing .emptyChainId r.rollup)) ∧
      (∀ g, (r.managerField "chainID").result = .error g → r.chainId.result = .error g) ∧
      r.chainId.acts = r.sources.chainId.acts ++ (r.sources.rollupData r.rollup).acts := by
  have hfails : ∃ f, Provider.FailsWith (rejectZero r.rollup)
      ⟨"legacyRollup", r.sources.chainId⟩ f := by
    rcases h with ⟨f, hf, hs⟩ | ⟨hwritable, v, hv, hzero⟩
    · exact ⟨f, .of_read hf hs⟩
    · refine ⟨.emptyChainId r.rollup, .of_rejected hv ?_⟩
      rw [run_rejectZero_of_zero r.rollup hzero, if_pos hwritable]
  obtain ⟨f, hf⟩ := hfails
  obtain ⟨hresult, hacts⟩ := Provider.resolve_pair_of_failsWith (.text "chainID")
    ⟨"rollupManager", r.managerField "chainID"⟩ hf
  refine ⟨fun v n hv hn hne => ?_, fun v hv hzero => ?_, fun g hg => ?_, ?_⟩
  · rw [outcome_rejectZero hv hn, if_neg hne] at hresult
    exact resolved_integer hresult hn
  · rw [outcome_rejectZero hv hzero, if_pos rfl] at hresult
    exact resolved_error hresult
  · rw [outcome_rejectZero_of_error hg] at hresult
    exact resolved_error hresult
  · rw [← r.managerField_acts "chainID"]
    exact (resolved_acts _).trans hacts

/-- If the id of the rollup cannot be written, a zero of the legacy contract ends the read, and the
manager is left alone. -/
theorem chainId_of_unwritten (h : r.sources.chainId.result = .ok v) (hzero : v.integer? = some 0)
    (hrollup : r.rollup.isWritable = false) :
    r.chainId.result = .error .unwrittenInteger ∧ r.chainId.acts = r.sources.chainId.acts := by
  have hbroken : (rejectZero r.rollup).run v = .error .unwrittenInteger := by
    rw [run_rejectZero_of_zero r.rollup hzero, hrollup]
    rfl
  let legacy : Provider := ⟨"legacyRollup", r.sources.chainId⟩
  have hread : legacy.read.result = .ok v := h
  obtain ⟨hresult, hacts⟩ := Provider.resolve_pair_of_broken (.text "chainID")
    ⟨"rollupManager", r.managerField "chainID"⟩ hread hbroken
  exact ⟨resolved_error hresult, (resolved_acts _).trans hacts⟩

/-! ## The hash of a batch -/

/-- A hash is read from what the manager says of the batch, and reading it does nothing more. -/
theorem accInputHash_result (r : Reader) (batch : Value) : (r.accInputHash batch).result =
    (r.sources.sequencedBatch r.rollup batch).result.bind hashOf := Traced.bind_result _ _

theorem accInputHash_of_ok {batch data : Value}
    (h : (r.sources.sequencedBatch r.rollup batch).result = .ok data) :
    (r.accInputHash batch).result = hashOf data := by
  rw [accInputHash_result, h]
  rfl

theorem accInputHash_of_error {batch : Value}
    (h : (r.sources.sequencedBatch r.rollup batch).result = .error f) :
    (r.accInputHash batch).result = .error f := by
  rw [accInputHash_result, h]
  rfl

theorem accInputHash_acts (r : Reader) (batch : Value) :
    (r.accInputHash batch).acts = (r.sources.sequencedBatch r.rollup batch).acts := by
  unfold accInputHash
  cases h : (r.sources.sequencedBatch r.rollup batch).result with
  | error f => exact Traced.acts_bind_of_error _ h
  | ok data => rw [Traced.acts_bind_of_ok _ h, Traced.acts_lift, List.append_nil]

/-- The hash is the part under its name or at the front; without that part it is not read. -/
theorem hashOf_of_part? {data : Value} :
    (∀ v, data.part? "accInputHash" 0 = some v → hashOf data = v.toByteString) ∧
      (data.isCompound = true → data.part? "accInputHash" 0 = none →
        ∃ f, hashOf data = .error f) := by
  cases data with
  | record fields => cases hfield : Value.field? fields "accInputHash" <;>
      simp [hashOf, Value.named, Value.part?, hfield, bind, Except.bind]
  | tuple items => cases hitem : items[0]? <;>
      simp [hashOf, Value.item, Value.item.pick, Value.part?, hitem, bind, Except.bind]
  | list items => cases hitem : items[0]? <;>
      simp [hashOf, Value.item, Value.item.pick, Value.part?, hitem, bind, Except.bind]
  | nothing => simp [hashOf, Value.item, Value.part?, bind, Except.bind]
  | _ => simp [Value.part?, Value.isCompound]

end Reader

end BatchFrontier
