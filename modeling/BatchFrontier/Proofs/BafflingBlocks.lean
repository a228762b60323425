import BatchFrontier.Proofs.BafflingReplies

/-!
# Blocks that nobody expects

A block has to be a record that does not hide how it is asked. Its fields are examined in their own
order, and the first one without its form decides: if it holds something else than it should, that
is expected, and if it is of another kind, it is not.
-/

namespace BatchFrontier.Chain

namespace Block

/-- That a field of a block has its form, or none is asked of it. -/
def HasForm (f : Text × Value) : Prop := Form.checkField blockForms f.1 f.2 = .ok ()

/-- What is examined of a block: whether it hides its fields, whether its extra data are too long,
whether it hides its names, whether the first field without its form is of the wrong kind, and
whether a record in it hides how it is asked. -/
def examinations (fields : List (Text × Value)) : List Examination :=
  [⟨Value.field? fields Form.fieldsField = none,
      (Value.field? fields Form.fieldsField).isSome = true⟩,
    ⟨checkExtra fields = .ok (), False⟩,
    ⟨Value.field? fields Form.namesField = none,
      (Value.field? fields Form.namesField).isSome = true⟩,
    ⟨∀ f ∈ fields, HasForm f, ∃ before f after, fields = before ++ f :: after ∧
      (∀ g ∈ before, HasForm g) ∧ Form.checkField blockForms f.1 f.2 = .error .kind⟩,
    ⟨Form.hidesAmongFields fields = false, Form.hidesAmongFields fields = true⟩]

/-- That a value in the place of a block is one that nobody expects. -/
def Baffles : Value → Prop
  | .nothing => False
  | .record fields => FirstEscapes (examinations fields)
  | _ => True

variable (fields : List (Text × Value))

theorem checkShown_escapes_iff (name : Text) :
    Escapes (checkShown fields name) ↔ (Value.field? fields name).isSome = true := by
  unfold checkShown
  split
  · next h => simp [h, Fault.isExpected]
  · next h => simp [h]

theorem checkShown_passes_iff (name : Text) :
    (∃ u, checkShown fields name = .ok u) ↔ Value.field? fields name = none := by
  unfold checkShown
  cases Value.field? fields name <;> simp

theorem checkExtra_failsOnly {p : Fault → Bool} (hextra : ∀ bs, p (.extraData bs) = true)
    (hfield : ∀ literal name, p (.blockField literal name) = true) :
    FailsOnly p (checkExtra fields) := by
  unfold checkExtra
  split
  · split
    · split
      · exact .error (hextra _)
      · exact .ok _
    · exact .ok _
    · exact .error (hfield _ _)
  · exact .ok _

theorem checkExtra_expected : FailsOnly Fault.isExpected (checkExtra fields) :=
  checkExtra_failsOnly fields (fun _ => rfl) fun _ _ => rfl

theorem checkFields_cons (f : Text × Value) : checkFields (f :: fields) =
    ((match Form.checkField blockForms f.1 f.2 with
      | .ok () => .ok ()
      | .error d => .error (fieldFault f.1 f.2 d)) >>= fun _ => checkFields fields) :=
  List.forM_cons

/-- All fields are passed if each has its form. -/
theorem checkFields_passes_iff : (∃ u, checkFields fields = .ok u) ↔ ∀ f ∈ fields, HasForm f := by
  induction fields with
  | nil => exact iff_of_true ⟨(), rfl⟩ (by simp)
  | cons f fields ih =>
    rw [checkFields_cons, List.forall_mem_cons, ← ih, HasForm]
    cases hform : Form.checkField blockForms f.1 f.2 with
    | error d => simp [Bind.bind, Except.bind]
    | ok u => simp [Bind.bind, Except.bind]

/-- Checking all fields escapes where the first field without its form is of the wrong kind. -/
theorem checkFields_escapes_iff : Escapes (checkFields fields) ↔
    ∃ before f after, fields = before ++ f :: after ∧ (∀ g ∈ before, HasForm g) ∧
      Form.checkField blockForms f.1 f.2 = .error .kind := by
  induction fields with
  | nil => exact iff_of_false (not_escapes_ok ()) (by simp)
  | cons f fields ih =>
    rw [checkFields_cons, escapes_bind_iff, ih]
    cases hform : Form.checkField blockForms f.1 f.2 with
    | error d =>
      have hcut : (∃ before g after, f :: fields = before ++ g :: after ∧
          (∀ g ∈ before, HasForm g) ∧ Form.checkField blockForms g.1 g.2 = .error .kind) ↔
          d = .kind := by
        constructor
        · rintro ⟨_ | ⟨b, before⟩, g, after, hfields, hbefore, hkind⟩
          · obtain ⟨rfl, -⟩ := List.cons.inj hfields
            exact Except.error.inj (hform.symm.trans hkind)
          · obtain ⟨rfl, -⟩ := List.cons.inj hfields
            cases hform.symm.trans (hbefore f List.mem_cons_self)
        · rintro rfl
          exact ⟨[], f, fields, rfl, by simp, hform⟩
      rw [hcut]
      cases d <;> simp [fieldFault, Fault.isExpected]
    | ok u =>
      constructor
      · rintro (h | ⟨-, -, before, g, after, rfl, hbefore, hkind⟩)
        · exact absurd h (not_escapes_ok _)
        · exact ⟨f :: before, g, after, rfl, List.forall_mem_cons.mpr ⟨hform, hbefore⟩, hkind⟩
      · rintro ⟨_ | ⟨b, before⟩, g, after, hfields, hbefore, hkind⟩
        · obtain ⟨rfl, -⟩ := List.cons.inj hfields
          cases hform.symm.trans hkind
        · obtain ⟨rfl, rfl⟩ := List.cons.inj hfields
          exact .inr ⟨(), rfl, before, g, after, rfl, (List.forall_mem_cons.mp hbefore).2, hkind⟩

theorem checkNested_escapes_iff :
    Escapes (checkNested fields) ↔ Form.hidesAmongFields fields = true := by
  unfold checkNested
  split
  · next h => simp [h, Fault.isExpected]
  · next h => simp [h]

theorem checkNested_passes_iff :
    (∃ u, checkNested fields = .ok u) ↔ Form.hidesAmongFields fields = false := by
  unfold checkNested
  cases Form.hidesAmongFields fields <;> simp

theorem mapM_readField_failsOnly {p : Fault → Bool} (h : ∀ v, p (.quantityText v) = true) :
    FailsOnly p (fields.mapM readField) := by
  induction fields with
  | nil => exact .ok _
  | cons f fields ih =>
    rw [List.mapM_cons]
    refine FailsOnly.bind ?_ fun _ _ => ih.bind fun _ _ => .ok _
    unfold readField
    split
    · exact (quantity_failsOnly h f.2).map _
    · exact .ok _

theorem mapM_readField_expected : FailsOnly Fault.isExpected (fields.mapM readField) :=
  mapM_readField_failsOnly fields fun _ => rfl

/-- Reading a block escapes if the value is one that nobody expects. -/
theorem read_escapes_iff (v : Value) : Escapes (read v) ↔ Baffles v := by
  cases v with
  | nothing => exact iff_of_false (by simp [read, missing, Fault.isExpected]) id
  | record fields =>
    have hextra : (∃ passed, checkExtra fields = .ok passed) ↔ checkExtra fields = .ok () := by
      constructor
      · rintro ⟨_, hpassed⟩
        exact hpassed
      · intro hpassed
        exact ⟨(), hpassed⟩
    refine escapes_bind_iff_firstEscapes (checkShown_escapes_iff fields _)
      (checkShown_passes_iff fields _) fun _ _ => ?_
    refine escapes_bind_iff_firstEscapes
      (iff_of_false (checkExtra_expected fields).not_escapes id) hextra fun _ _ => ?_
    refine escapes_bind_iff_firstEscapes (checkShown_escapes_iff fields _)
      (checkShown_passes_iff fields _) fun _ _ => ?_
    refine escapes_bind_iff_firstEscapes (checkFields_escapes_iff fields)
      (checkFields_passes_iff fields) fun _ _ => ?_
    refine escapes_bind_iff_firstEscapes (checkNested_escapes_iff fields)
      (checkNested_passes_iff fields) fun _ _ => ?_
    have hread : FailsOnly Fault.isExpected (do
        let fields ← fields.mapM readField
        pure (Value.record fields)) := (mapM_readField_expected fields).bind fun _ _ => .ok _
    exact iff_of_false hread.not_escapes not_firstEscapes_nil
  | _ => simp [read, Baffles, Fault.isExpected]

/-- A block that is read is a record. -/
theorem exists_record_of_read {v w : Value} (h : read v = .ok w) :
    ∃ fields, w = .record fields := by
  cases v with
  | nothing => cases h
  | record fields =>
    have hlast {x : Except Fault Unit} {next : Except Fault Value}
        (hnext : x >>= (fun _ => next) = .ok w) : next = .ok w := by
      cases x with
      | error f => cases hnext
      | ok u => exact hnext
    have hmap := hlast (hlast (hlast (hlast (hlast h))))
    cases hfields : fields.mapM readField with
    | error f =>
      rw [hfields] at hmap
      cases hmap
    | ok fields' =>
      rw [hfields] at hmap
      exact ⟨fields', (Except.ok.inj hmap).symm⟩
  | _ => cases h

end Block

namespace Node

variable (n : Node)

/-- That a node replies with what nobody expects to a question for its last block. -/
def BafflesBlock : Prop :=
  ∃ v, (n.reply "eth_getBlockByNumber").Brings v ∧ Block.Baffles v

/-- That the number of the last block, which is otherwise well-formed, is none. -/
def BafflesTip : Prop :=
  ∃ fields v, n.latestBlock.result = .ok (.record fields) ∧
    Value.field? fields "number" = some v ∧ v.isCountable = false

variable {n}

theorem latestBlock_result : n.latestBlock.result =
    ((n.result "eth_getBlockByNumber").result >>= Block.read) := by
  rw [latestBlock, Traced.bind_result]
  rfl

theorem latestBlock_escapes_iff (hn : n.RaisesReports) :
    Escapes n.latestBlock.result ↔ n.BafflesBlock := by
  have hparameter : methodsWithParameter.contains "eth_getBlockByNumber" = true := by decide
  rw [latestBlock_result, escapes_bind_iff, result_escapes_iff hn, BafflesBlock]
  simp only [hparameter, Bool.true_eq_false, false_and, false_or, result_eq_ok_iff,
    Block.read_escapes_iff]

/-- The last block is a record. -/
theorem exists_record_of_latestBlock {block : Value} (h : n.latestBlock.result = .ok block) :
    ∃ fields, block = .record fields := by
  rw [latestBlock_result] at h
  cases hresult : (n.result "eth_getBlockByNumber").result with
  | error f =>
    rw [hresult] at h
    cases h
  | ok v =>
    rw [hresult] at h
    exact Block.exists_record_of_read h

end Node

end BatchFrontier.Chain
