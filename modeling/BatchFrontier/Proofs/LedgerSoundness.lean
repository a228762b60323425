import BatchFrontier.Proofs.LedgerRefinement

/-!
# A ledger of any values stays sound

A ledger may be given values of any kind. Whatever is done through ledgers on one connection, no key
ever stands in two rows of a table, and every row has an end. What is refused changes no table, with
one exception: a commit is refused in a damaged transaction, whose work is lost. A transaction is
damaged only by making a table called `if`.

An integer and its decimal text are one key. What is recorded under one is read under the other,
with one exception again: in a table called `excluded` a range that is recorded again keeps its old
end.
-/

namespace BatchFrontier

namespace Handle

open Store (Command)

variable {f : Ledger.Frame} (hf : f.Lawful) {l : Ledger}
  (hname : Ledger.isTableName l.table.toList = true) (h : Handle) {command : Command}
  (htext : Command.ofText (h.prepared (f.text l)) = .ok command)

include hf hname htext

/-- A statement that is understood has a name that is free. -/
theorem isFree_of_prepared : l.tableName.isFree = true := by
  cases hfree : l.tableName.isFree with
  | true => rfl
  | false =>
    have htable := h.table_reaching l
    rw [prepared_text hf hname] at htext
    rw [← htable] at hname
    rw [Ledger.tableName, ← htable] at hfree
    obtain ⟨e, he⟩ := Ledger.Frame.ofText_text_of_not_free hf hname hfree
    cases htext.symm.trans he

/-- A statement with a place for a parameter that is understood is what its frame says, and came
through a handle that suits the ledger. -/
theorem command_of_prepared (hplace : f.TakesParameter) :
    command = ⟨f.verb, l.tableName⟩ ∧ h.suits l = true := by
  have hfree := isFree_of_prepared hf hname h htext
  cases hsuits : h.suits l with
  | true =>
    have hread := ofText_prepared hf hname h hfree (congrArg f.after (mark_reaching hsuits))
    exact ⟨Except.ok.inj (htext.symm.trans hread), rfl⟩
  | false =>
    have hrefused := ofText_prepared_of_not_suits hf hname h hfree hplace hsuits
    cases htext.symm.trans hrefused

end Handle

namespace Ledger

open Store (Cell Command Connection Database Row Schema Table)

/-! ## Deeds -/

/-- What is done on a connection with values of any kind, through ledgers and handles of it. -/
inductive Deed where
  | schema (l : Ledger) (h : Handle)
  | add (l : Ledger) (h : Handle) (first last : Value)
  | get (l : Ledger) (h : Handle) (first : Value)
  | commit
  | rollback
  deriving Repr

namespace Deed

/-- Does a deed. Only looking up a range gives one. -/
def perform (c : Connection) : Deed → Connection × Except Fault (Option Sequence)
  | .schema l h => ((l.createSchema h c).1, (l.createSchema h c).2.map fun _ => none)
  | .add l h first last => ((l.add h c first last).1, (l.add h c first last).2.map fun _ => none)
  | .get l h first => l.get? h c first
  | .commit => (c.commit.1, c.commit.2.map fun _ => none)
  | .rollback => (c.rollback, .ok none)

/-- A step on ranges as a deed. -/
def ofStep : Step → Deed
  | .schema l h => .schema l h
  | .add l h first last => .add l h (.integer first.toInt) (.integer last.toInt)
  | .get l h first => .get l h (.integer first.toInt)
  | .commit => .commit
  | .rollback => .rollback

theorem perform_ofStep (c : Connection) (s : Step) : (ofStep s).perform c = s.perform c := by
  cases s <;> rfl

/-- That a deed goes through a ledger with the name of a table, if it goes through one. -/
def IsNamed : Deed → Prop
  | .schema l _ | .add l _ _ _ | .get l _ _ => isTableName l.table.toList = true
  | .commit | .rollback => True

/-- That a deed makes a table called `if`, which cannot be read back. -/
def Damages : Deed → Prop
  | .schema l _ => Database.isUnreadable l.tableName.table = true
  | _ => False

/-- The statement of a deed, with the handle that carries it out. -/
def statement? : Deed → Option (Handle × Statement)
  | .schema l h => some (h, l.schemaStatement)
  | .add l h first last => some (h, l.addStatement first last)
  | .get l h first => some (h, l.getStatement first)
  | .commit | .rollback => none

end Deed

namespace Deed

/-- A deed with a statement leaves the connection as the statement does. -/
theorem perform_fst {deed : Deed} {h : Handle} {s : Statement} (hs : deed.statement? = some (h, s))
    (c : Connection) : (deed.perform c).1 = (h.execute c s).1 := by
  cases deed with
  | schema l handle =>
    obtain ⟨rfl, rfl⟩ := Prod.mk.inj (Option.some.inj hs)
    rfl
  | add l handle first last =>
    obtain ⟨rfl, rfl⟩ := Prod.mk.inj (Option.some.inj hs)
    rfl
  | get l handle first =>
    obtain ⟨rfl, rfl⟩ := Prod.mk.inj (Option.some.inj hs)
    rfl
  | commit => cases hs
  | rollback => cases hs

/-- A deed keeps all tables sound. -/
theorem isSound_perform (deed : Deed) {c : Connection} (hcommitted : c.committed.IsSound)
    (hworking : c.working.IsSound) :
    (deed.perform c).1.committed.IsSound ∧ (deed.perform c).1.working.IsSound := by
  have hstatement (h : Handle) (s : Statement) (hs : deed.statement? = some (h, s)) :
      (deed.perform c).1.committed.IsSound ∧ (deed.perform c).1.working.IsSound := by
    rw [perform_fst hs, Handle.execute]
    cases hrows : (c.execute (h.prepared s.text) s.parameters).2 with
    | error f =>
      obtain ⟨htables, -⟩ := Connection.execute_of_error c _ hrows
      rw [htables.committed, htables.working]
      exact ⟨hcommitted, hworking⟩
    | ok rows =>
      obtain ⟨command, cells, known, d, -, -, hrun, hrests, -⟩ :=
        Connection.execute_of_ok c _ hrows
      have hsound : d.IsSound := hworking.run hrun
      obtain ⟨hkept, hdone, -⟩ := Connection.keep_eq (c.opened command.verb) d
      obtain ⟨hopened, -⟩ := Connection.opened_eq c command.verb
      rw [hrests.committed, hrests.working, hkept]
      refine ⟨?_, hsound⟩
      rcases hdone with hbefore | hafter
      · rw [hbefore, hopened.committed]
        exact hcommitted
      · rw [hafter]
        exact hsound
  cases deed with
  | schema l h => exact hstatement h _ rfl
  | add l h first last => exact hstatement h _ rfl
  | get l h first => exact hstatement h _ rfl
  | commit =>
    cases hdone : c.commit.2 with
    | ok u =>
      obtain ⟨hafter, hkept, -⟩ := Connection.commit_of_ok c hdone
      exact ⟨hafter ▸ hworking, hkept ▸ hworking⟩
    | error f =>
      obtain ⟨-, hbefore, hdropped, -⟩ := Connection.commit_of_error c hdone
      exact ⟨hbefore ▸ hcommitted, hdropped ▸ hcommitted⟩
  | rollback =>
    obtain ⟨hbefore, hdropped, -⟩ := Connection.rollback_eq c
    exact ⟨hbefore ▸ hcommitted, hdropped ▸ hcommitted⟩

/-- Looking a range up changes no table, whether it is found or not. -/
theorem sameTables_get {l : Ledger} (hname : isTableName l.table.toList = true) (h : Handle)
    (c : Connection) (first : Value) : ((Deed.get l h first).perform c).1.SameTables c := by
  rw [perform_fst rfl, Handle.execute]
  cases hrows : (c.execute (h.prepared (l.getStatement first).text)
      (l.getStatement first).parameters).2 with
  | error f => exact (Connection.execute_of_error c _ hrows).1
  | ok rows =>
    obtain ⟨command, cells, known, d, htext, -, hrun, hrests, -⟩ :=
      Connection.execute_of_ok c _ hrows
    rw [← Frame.text_find] at htext
    obtain ⟨rfl, -⟩ := Handle.command_of_prepared Frame.find_lawful hname h htext
      Frame.find_takesParameter
    obtain rfl : d = c.working := Database.eq_of_run_find hrun
    exact hrests.sameTables.trans (Connection.sameTables_keep_working c)

/-- A deed that is refused leaves all tables as they were, unless it is a commit of a damaged
transaction. -/
theorem sameTables_of_error {deed : Deed} (hnamed : deed.IsNamed) {c : Connection} {f : Fault}
    (h : (deed.perform c).2 = .error f) :
    (deed.perform c).1.SameTables c ∨ deed = .commit ∧ c.isDamaged = true := by
  cases deed with
  | schema l handle =>
    have hrefused := map_eq_error_iff.mp h
    rw [createSchema_eq] at hrefused
    exact .inl (Connection.execute_of_error c _ (map_eq_error_iff.mp hrefused)).1
  | add l handle first last =>
    have hrefused := map_eq_error_iff.mp h
    rw [add_eq] at hrefused
    exact .inl (Connection.execute_of_error c _ (map_eq_error_iff.mp hrefused)).1
  | get l handle first => exact .inl (sameTables_get hnamed handle c first)
  | commit => exact .inr ⟨rfl, (Connection.commit_of_error c (map_eq_error_iff.mp h)).1⟩
  | rollback => cases h

/-- Only a deed that makes a table called `if` damages a transaction. -/
theorem damages_of_perform {deed : Deed} (hnamed : deed.IsNamed) {c : Connection}
    (h : (deed.perform c).1.isDamaged = true) : c.isDamaged = true ∨ deed.Damages := by
  have hstatement (handle : Handle) (s : Statement) (hs : deed.statement? = some (handle, s)) :
      c.isDamaged = true ∨ ∃ command, Command.ofText (handle.prepared s.text) = .ok command ∧
        command.Damages := by
    rw [perform_fst hs, Handle.execute] at h
    cases hrows : (c.execute (handle.prepared s.text) s.parameters).2 with
    | error f => exact (Connection.execute_of_error c _ hrows).2 h
    | ok rows =>
      obtain ⟨command, cells, known, d, -, -, -, hrests, -⟩ := Connection.execute_of_ok c _ hrows
      obtain ⟨-, -, -, hkept⟩ := Connection.keep_eq (c.opened command.verb) d
      obtain ⟨-, -, hopened⟩ := Connection.opened_eq c command.verb
      rw [hrests.isDamaged, hkept, hopened] at h
      exact .inl h
  cases deed with
  | schema l handle =>
    rcases hstatement handle _ rfl with hbefore | ⟨command, htext, -, hunreadable⟩
    · exact .inl hbefore
    · rw [← Frame.text_create] at htext
      have hfree := Handle.isFree_of_prepared Frame.create_lawful hnamed handle htext
      have hread := Handle.ofText_prepared Frame.create_lawful hnamed handle hfree rfl
      obtain rfl := Except.ok.inj (htext.symm.trans hread)
      exact .inr hunreadable
  | add l handle first last =>
    rcases hstatement handle _ rfl with hbefore | ⟨command, htext, hcreates, -⟩
    · exact .inl hbefore
    · rw [← Frame.text_upsert] at htext
      obtain ⟨rfl, -⟩ := Handle.command_of_prepared Frame.upsert_lawful hnamed handle htext
        Frame.upsert_takesParameter
      cases hcreates
  | get l handle first =>
    rcases hstatement handle _ rfl with hbefore | ⟨command, htext, hcreates, -⟩
    · exact .inl hbefore
    · rw [← Frame.text_find] at htext
      obtain ⟨rfl, -⟩ := Handle.command_of_prepared Frame.find_lawful hnamed handle htext
        Frame.find_takesParameter
      cases hcreates
  | commit =>
    cases hdone : c.commit.2 with
    | ok u => exact .inl ((Connection.commit_of_ok c hdone).2.2.symm.trans h)
    | error f => exact .inl (Connection.commit_of_error c hdone).1
  | rollback => exact .inl ((Connection.rollback_eq c).2.2 h)

end Deed

/-! ## Spellings of an integer -/

/-- The values that give an integer as a key: the integer and its decimal text. -/
def spellings (n : Int64) : List Value := [.integer n.toInt, .text (Text.integer n.toInt)]

/-- Every spelling of an integer of 64 bits is stored as the integer. -/
theorem ofValue_of_mem_spellings {n : Int64} {v : Value} (hv : v ∈ spellings n) (position : Nat) :
    Cell.ofValue position v = .ok (.integer n.toInt) := by
  have hinteger := Cell.ofValue_toInt position n
  rcases List.mem_cons.mp hv with rfl | hv
  · exact hinteger
  · obtain rfl := List.mem_singleton.mp hv
    have hfits : Cell.fits n.toInt = true := by
      by_contra hfits
      rw [Cell.ofValue, if_neg hfits] at hinteger
      cases hinteger
    obtain ⟨bs, hbs⟩ := Utf8.exists_encodeText_ofChars (Text.integer n.toInt).toList
    rw [Cell.ofValue, Text.ofString, hbs]
    simp only [Text.chars_ofChars, String.ofList_toList, Cell.ofText_integer hfits]

section

variable (l : Ledger) (h : Handle) (c : Connection) {n : Int64} {v w : Value}
  (hv : v ∈ spellings n) (hw : w ∈ spellings n)

include hv hw

/-- A range is added alike under all spellings of an integer. -/
theorem add_congr (last : Value) : l.add h c v last = l.add h c w last := by
  have hcell : Cell.ofValue 1 v = Cell.ofValue 1 w := by
    rw [ofValue_of_mem_spellings hv, ofValue_of_mem_spellings hw]
  have hexecute : h.execute c (l.addStatement v last) = h.execute c (l.addStatement w last) :=
    Connection.execute_congr c _ hcell [last]
  rw [add_eq l h c v, add_eq l h c w, hexecute]

/-- A range is looked up alike under all spellings of an integer. -/
theorem get?_congr : l.get? h c v = l.get? h c w := by
  have hcell : Cell.ofValue 1 v = Cell.ofValue 1 w := by
    rw [ofValue_of_mem_spellings hv, ofValue_of_mem_spellings hw]
  have hexecute : h.execute c (l.getStatement v) = h.execute c (l.getStatement w) :=
    Connection.execute_congr c _ hcell []
  rw [get?_eq l h c v, get?_eq l h c w, hexecute]

end

/-- The range in a row, if both of its cells can be read. -/
theorem sequenceOf_rowValue (r : Row) : sequenceOf (rowValue r) =
    r.first.toValue.toInteger >>= fun first => r.last.toValue.toInteger.map fun last =>
      some ⟨first, last⟩ := by
  have hrow : sequenceOf (rowValue r) = r.first.toValue.toInteger >>= fun first =>
      r.last.toValue.toInteger >>= fun last => pure (some ⟨first, last⟩) := rfl
  rw [hrow]
  cases r.first.toValue.toInteger <;> cases r.last.toValue.toInteger <;> rfl

/-! ## What is read after it was recorded -/

/-- That a table of a connection got a row, in its transaction: the row was added, or the row with
its key was updated. -/
structure Recorded (l : Ledger) (c e : Connection) (key last : Cell) (s : Schema) (t : Table) :
    Prop where
  found : c.working.find? l.tableName = some (s, t)
  ended : last ≠ .null
  committed : e.committed = c.committed
  working : e.working = c.working.withRow s t ⟨key, last⟩

section

variable {l : Ledger} (hname : isTableName l.table.toList = true) {h : Handle} {c : Connection}

include hname

/-- A range that was recorded has two cells and stands in a row of the ledger's table; the
connection is free to write and the handle suits the ledger. -/
theorem recorded_of_add {first last : Value} (hadd : (l.add h c first last).2 = .ok ()) :
    ∃ key cell s t, Cell.ofValue 1 first = .ok key ∧ Cell.ofValue 2 last = .ok cell ∧
      l.Recorded c (l.add h c first last).1 key cell s t ∧ l.tableName.isFree = true ∧
      (∃ known, c.working.writable known l.tableName = .ok (s, t)) ∧
      (l.add h c first last).1.barrier = none ∧ (l.add h c first last).1.isDamaged = false := by
  rw [add_eq] at hadd ⊢
  obtain ⟨rows, hrows, -⟩ := map_eq_ok_iff.mp hadd
  obtain ⟨command, cells, known, d, htext, hcells, hrun, hrests, -, hfree⟩ :=
    Connection.execute_of_ok c _ hrows
  rw [← Frame.text_upsert] at htext
  have hnamed := Handle.isFree_of_prepared Frame.upsert_lawful hname h htext
  obtain ⟨rfl, -⟩ := Handle.command_of_prepared Frame.upsert_lawful hname h htext
    Frame.upsert_takesParameter
  obtain ⟨hdamage, hbarrier⟩ := hfree rfl
  obtain ⟨key, cell, s, t, rfl, hwritable, hlast, rfl⟩ := Database.exists_withRow_of_run hrun
  obtain ⟨hkey, hcell⟩ := Cell.ofValue_of_ofValues hcells
  obtain ⟨hworking, -, hkept, hkeptDamage⟩ :=
    Connection.keep_eq (c.opened .upsert) (c.working.withRow s t ⟨key, cell⟩)
  obtain ⟨-, hopened, hopenedDamage⟩ := Connection.opened_eq c .upsert
  refine ⟨key, cell, s, t, hkey, hcell, ?_, hnamed, ⟨known, hwritable⟩, ?_, ?_⟩
  · exact ⟨(Database.find?_of_writable hwritable).2, hlast,
      hrests.committed.trans (Connection.committed_keep_opened_upsert c _),
      hrests.working.trans hworking⟩
  · exact (hrests.barrier.trans (hkept.trans hopened)).trans hbarrier
  · exact (hrests.isDamaged.trans (hkeptDamage.trans hopenedDamage)).trans hdamage

/-- Where the table of a ledger can be read, looking a first batch up reads the row with its key. -/
theorem get?_of_readable (hfree : l.tableName.isFree = true) (hbarrier : c.barrier = none)
    (hdamage : c.isDamaged = false) {t : Table} (htable : c.working.readable l.tableName = .ok t)
    (hsuits : h.suits l = true) {first : Value} {key : Cell}
    (hkey : Cell.ofValue 1 first = .ok key) :
    (l.get? h c first).2 = sequenceOf (((t.find? key).map rowValue).getD .nothing) := by
  have htext : Command.ofText (h.prepared (Frame.find.text l)) = .ok ⟨.find, l.tableName⟩ :=
    Handle.ofText_prepared Frame.find_lawful hname h hfree
      (congrArg Frame.find.after (Handle.mark_reaching hsuits))
  rw [Frame.text_find l first] at htext
  have hcells : Cell.ofValues 1 [first] = .ok [key] := by
    simp only [Cell.ofValues, hkey, bind, Except.bind, pure, Except.pure]
  have hcheck (known : List String) : c.working.check known ⟨.find, l.tableName⟩ = .ok () := by
    rw [Database.check, htable]
    rfl
  have hrun (known : List String) : c.working.run known ⟨.find, l.tableName⟩ [key] =
      .ok (c.working, (t.find? key).toList) := by
    simp only [Database.run, htable, Except.map]
  obtain ⟨-, hrows⟩ := Connection.execute_of_allowed htext hbarrier hdamage hcheck hcells hrun
  have hexecuted : (h.execute c (l.getStatement first)).2 = .ok (t.find? key).toList := hrows
  have hhead : (t.find? key).toList.head? = t.find? key := by cases t.find? key <;> rfl
  rw [get?_eq, hexecuted]
  simp only [bind, Except.bind, hhead]

/-- After a range was recorded under an integer, it is read under every spelling of the integer,
with the end that its table keeps. -/
theorem get?_of_add {n : Int64} {first last v : Value} (hfirst : first ∈ spellings n)
    (hv : v ∈ spellings n) (hadd : (l.add h c first last).2 = .ok ()) {handle : Handle}
    (hsuits : handle.suits l = true) :
    ∃ cell s t, Cell.ofValue 2 last = .ok cell ∧
      l.Recorded c (l.add h c first last).1 (.integer n.toInt) cell s t ∧
      (l.get? handle (l.add h c first last).1 v).2 =
        (t.kept (.integer n.toInt) cell).toValue.toInteger.map fun stored =>
          some ⟨n.toInt, stored⟩ := by
  obtain ⟨key, cell, s, t, hkey, hcell, hrecorded, hfree, ⟨known, hwritable⟩, hbarrier, hdamage⟩ :=
    recorded_of_add hname hadd
  obtain rfl : .integer n.toInt = key :=
    Except.ok.inj ((ofValue_of_mem_spellings hfirst 1).symm.trans hkey)
  refine ⟨cell, s, t, hcell, hrecorded, ?_⟩
  have htable : (l.add h c first last).1.working.readable l.tableName =
      .ok (t.upsert ⟨.integer n.toInt, cell⟩) := by
    rw [hrecorded.working]
    exact Database.readable_withRow hwritable _
  rw [get?_of_readable hname hfree hbarrier hdamage htable hsuits (ofValue_of_mem_spellings hv 1)]
  have hnumber : (Cell.integer n.toInt).key? = some (.number n.toInt) := rfl
  obtain ⟨r, hr, hnumber, hlast⟩ := t.exists_find?_upsert cell hnumber
  have hread : r.first.toValue.toInteger = .ok n.toInt := Cell.toInteger_of_key? hnumber
  rw [hr, Option.map_some, Option.getD_some, sequenceOf_rowValue, hread, hlast]
  rfl

end

/-! ## Runs -/

/-- What ledgers keep to on a connection, whatever values they are given. -/
structure IsReliable (c : Connection) : Prop where
  committed : c.committed.IsSound
  working : c.working.IsSound
  /-- What is refused changes no table, except a commit of a damaged transaction. -/
  atomic : ∀ deed : Deed, deed.IsNamed → ∀ f, (deed.perform c).2 = .error f →
    (deed.perform c).1.SameTables c ∨ deed = .commit ∧ c.isDamaged = true
  /-- After a refusal what was worked on before can still be committed, unless the transaction is
  damaged. -/
  stillThere : ∀ deed : Deed, deed.IsNamed → deed ≠ .commit → ∀ f,
    (deed.perform c).2 = .error f → (deed.perform c).1.isDamaged = false →
      (deed.perform c).1.commit.2 = .ok () ∧
        (deed.perform c).1.commit.1.committed = c.working
  /-- What is recorded is one row with an end. -/
  records : ∀ (l : Ledger) (h : Handle) (first last : Value),
    isTableName l.table.toList = true → (l.add h c first last).2 = .ok () →
      ∃ key cell s t, Cell.ofValue 1 first = .ok key ∧ Cell.ofValue 2 last = .ok cell ∧
        l.Recorded c (l.add h c first last).1 key cell s t
  /-- An integer and its decimal text do the same. -/
  sameKey : ∀ (l : Ledger) (h : Handle) (n : Int64), ∀ v ∈ spellings n, ∀ w ∈ spellings n,
    (∀ last, l.add h c v last = l.add h c w last) ∧ l.get? h c v = l.get? h c w
  /-- What is recorded under an integer is read under each of its spellings. -/
  readBack : ∀ (l : Ledger) (h handle : Handle) (n : Int64) (last : Value),
    isTableName l.table.toList = true → handle.suits l = true →
      ∀ v ∈ spellings n, ∀ w ∈ spellings n, (l.add h c v last).2 = .ok () →
        ∃ cell s t, Cell.ofValue 2 last = .ok cell ∧
          l.Recorded c (l.add h c v last).1 (.integer n.toInt) cell s t ∧
          (l.get? handle (l.add h c v last).1 w).2 =
            (t.kept (.integer n.toInt) cell).toValue.toInteger.map fun stored =>
              some ⟨n.toInt, stored⟩

theorem IsReliable.of_isSound {c : Connection} (hcommitted : c.committed.IsSound)
    (hworking : c.working.IsSound) : IsReliable c where
  committed := hcommitted
  working := hworking
  atomic deed hnamed f hf := Deed.sameTables_of_error hnamed hf
  stillThere deed hnamed hdeed f hf hsound := by
    have hcommit := Connection.commit_of_not_damaged _ hsound
    obtain ⟨hafter, -⟩ := Connection.commit_of_ok _ hcommit
    rcases Deed.sameTables_of_error hnamed hf with hsame | ⟨hcommits, -⟩
    · exact ⟨hcommit, hafter.trans hsame.working⟩
    · exact absurd hcommits hdeed
  records l h first last hname hadd := by
    obtain ⟨key, cell, s, t, hkey, hcell, hrecorded, -⟩ := recorded_of_add hname hadd
    exact ⟨key, cell, s, t, hkey, hcell, hrecorded⟩
  sameKey l h n v hv w hw := ⟨add_congr l h c hv hw, get?_congr l h c hv hw⟩
  readBack l h handle n last hname hsuits v hv w hw hadd := get?_of_add hname hv hw hadd hsuits

/-- Every run on a new connection leads to a connection that is reliable, and damages a transaction
only by making a table called `if`. -/
theorem isReliable_run {deeds : List Deed} (hnamed : ∀ deed ∈ deeds, deed.IsNamed) :
    IsReliable (Run.along Deed.perform (.ofDatabase .empty) deeds).1 ∧
      ((Run.along Deed.perform (.ofDatabase .empty) deeds).1.isDamaged = true →
        ∃ deed ∈ deeds, deed.Damages) := by
  have hsound (deed : Deed) (_ : deed ∈ deeds) (c : Connection)
      (h : c.committed.IsSound ∧ c.working.IsSound) :
      (deed.perform c).1.committed.IsSound ∧ (deed.perform c).1.working.IsSound :=
    deed.isSound_perform h.1 h.2
  have hdamage (deed : Deed) (hdeed : deed ∈ deeds) (c : Connection)
      (h : c.isDamaged = true → ∃ other ∈ deeds, other.Damages)
      (hdamaged : (deed.perform c).1.isDamaged = true) : ∃ other ∈ deeds, other.Damages := by
    rcases Deed.damages_of_perform (hnamed deed hdeed) hdamaged with hbefore | hdamages
    · exact h hbefore
    · exact ⟨deed, hdeed, hdamages⟩
  have hnew : ¬ (Connection.ofDatabase .empty).isDamaged = true := Bool.false_ne_true
  have hempty : (Connection.ofDatabase .empty).committed.IsSound ∧
      (Connection.ofDatabase .empty).working.IsSound :=
    ⟨Database.isSound_empty, Database.isSound_empty⟩
  obtain ⟨hcommitted, hworking⟩ := Run.along_preserves hsound hempty
  exact ⟨.of_isSound hcommitted hworking,
    Run.along_preserves hdamage fun h => absurd h hnew⟩

/-- A run that adds under an integer and its decimal text, and is refused on the way. -/
def mixedDeeds : List Deed :=
  [.schema .default .connection, .add .default .connection (.integer 5) (.integer 1),
    .add .default .cursor (.text "5") (.text "seven"), .get .default .connection (.integer 5),
    .add .default .connection (.integer 9223372036854775808) (.integer 1),
    .add .default .connection .nothing .nothing, .add .default .connection (.list []) .nothing,
    .commit]

/-- After a run that was refused on the way the connection is reliable and not damaged. -/
theorem isReliable_mixedDeeds : (∀ deed ∈ mixedDeeds, deed.IsNamed) ∧
    IsReliable (Run.along Deed.perform (.ofDatabase .empty) mixedDeeds).1 ∧
      (Run.along Deed.perform (.ofDatabase .empty) mixedDeeds).1.isDamaged = false := by
  have hnamed : ∀ deed ∈ mixedDeeds, deed.IsNamed := by
    have hdefault : isTableName Ledger.default.table.toList = true := by decide +kernel
    simp only [mixedDeeds, Deed.IsNamed, List.forall_mem_cons, hdefault]
    simp
  obtain ⟨hreliable, hdamages⟩ := isReliable_run hnamed
  refine ⟨hnamed, hreliable, ?_⟩
  by_contra hdamaged
  obtain ⟨deed, hdeed, hunreadable⟩ := hdamages (by simpa using hdamaged)
  simp only [mixedDeeds, List.mem_cons, List.not_mem_nil, or_false] at hdeed
  rcases hdeed with rfl | rfl | rfl | rfl | rfl | rfl | rfl | rfl
  · have hreadable : Database.isUnreadable Ledger.default.tableName.table = false := by
      decide +kernel
    exact Bool.false_ne_true (hreadable.symm.trans hunreadable)
  all_goals exact hunreadable

/-! ## What is lost -/

/-- Making a table called `if` while a range is not committed damages the transaction: the next
commit is refused and drops the range. -/
theorem loses_work {l : Ledger} (hname : isTableName l.table.toList = true)
    (hfree : l.tableName.isFree = true) (hif : Database.isUnreadable l.tableName.table = true)
    {s : Schema} (hcreatable : Database.creatable l.tableName = .ok s) (h : Handle)
    {c : Connection} {deeds : List Deed}
    (hbarrier : (Run.along Deed.perform c deeds).1.barrier = none)
    (hwork : (Run.along Deed.perform c deeds).1.working ≠
      (Run.along Deed.perform c deeds).1.committed) :
    (∃ f, (Deed.commit.perform
        (Run.along Deed.perform c (deeds ++ [.schema l h])).1).2 = .error f) ∧
      ¬ (Deed.commit.perform (Run.along Deed.perform c (deeds ++ [.schema l h])).1).1.SameTables
        (Run.along Deed.perform c (deeds ++ [.schema l h])).1 := by
  have hlast : (Run.along Deed.perform c (deeds ++ [.schema l h])).1 =
      (h.execute (Run.along Deed.perform c deeds).1 l.schemaStatement).1 := by
    rw [Run.along_append]
    exact congrArg Prod.fst (createSchema_eq l h _)
  rw [hlast]
  generalize (Run.along Deed.perform c deeds).1 = e at hbarrier hwork
  have htext := Handle.ofText_prepared Frame.create_lawful hname h hfree rfl
  rw [Frame.text_create] at htext
  obtain ⟨hdamaged, f, hrefused⟩ := Connection.damaged_of_execute htext hcreatable hif hbarrier
    (Connection.inTransaction_of_working_ne e hwork)
  obtain ⟨htables, -⟩ := Connection.execute_of_error e _ hrefused
  have hunsettled : (h.execute e l.schemaStatement).1.working ≠
      (h.execute e l.schemaStatement).1.committed := by
    intro hsettled
    exact hwork (htables.working.symm.trans (hsettled.trans htables.committed))
  have hcommit := Connection.commit_of_isDamaged _
    (Connection.inTransaction_of_working_ne _ hunsettled) hdamaged
  obtain ⟨-, -, hdropped, -⟩ := Connection.commit_of_error _ hcommit
  refine ⟨⟨_, map_eq_error_iff.mpr hcommit⟩, fun hsame => ?_⟩
  exact hunsettled (hsame.working.symm.trans hdropped)

/-- Steps that record a range and leave it uncommitted. -/
def recordedOnce : List Step := [.schema .default .connection, .add .default .connection 1 2]

/-- A range that was recorded once is worked on and not committed. -/
theorem working_recordedOnce :
    (Run.along Deed.perform (.ofDatabase .empty) (recordedOnce.map Deed.ofStep)).1.barrier =
        none ∧
      (Run.along Deed.perform (.ofDatabase .empty) (recordedOnce.map Deed.ofStep)).1.working ≠
        (Run.along Deed.perform (.ofDatabase .empty) (recordedOnce.map Deed.ofStep)).1.committed
    := by
  have hname : isTableName Ledger.default.table.toList = true := by decide +kernel
  have hhome : Ledger.default.tableName.home? = some ⟨.main, "sequence"⟩ := by decide +kernel
  have hon : ∀ s ∈ recordedOnce, s.IsOn (some ⟨.main, "sequence"⟩) := by
    simp only [recordedOnce, Step.IsOn, List.forall_mem_cons]
    exact ⟨⟨hname, hhome⟩, ⟨hname, hhome⟩, by simp⟩
  obtain ⟨hfollows, -⟩ := Follows.run hon
  rw [Run.along_map]
  simp only [Deed.perform_ofStep]
  refine ⟨hfollows.barrier, fun hsettled => ?_⟩
  obtain ⟨hcommitted, hworking⟩ := hfollows.made (by decide +kernel)
  rw [hsettled] at hworking
  have hranges := hcommitted.unique hworking
  exact absurd (congrFun hranges 1) (by decide +kernel)

/-- What is done to lose a range: it is recorded, and a table called `if` is made. -/
def losingDeeds : List Deed :=
  recordedOnce.map Deed.ofStep ++ [.schema ⟨"if", .qmark⟩ .connection]

/-- The commit after a table called `if` was made is refused, and changes the tables: the range that
was recorded is lost. -/
theorem not_sameTables_losingDeeds :
    (∃ f, (Deed.commit.perform
        (Run.along Deed.perform (.ofDatabase .empty) losingDeeds).1).2 = .error f) ∧
      ¬ (Deed.commit.perform
          (Run.along Deed.perform (.ofDatabase .empty) losingDeeds).1).1.SameTables
        (Run.along Deed.perform (.ofDatabase .empty) losingDeeds).1 := by
  have hname : isTableName "if".toList = true := by decide
  have hfree : (tableName ⟨"if", .qmark⟩).isFree = true := by decide +kernel
  have hif : Database.isUnreadable (tableName ⟨"if", .qmark⟩).table = true := by decide +kernel
  have hcreatable : Database.creatable (tableName ⟨"if", .qmark⟩) = .ok .main := by decide +kernel
  obtain ⟨hbarrier, hwork⟩ := working_recordedOnce
  exact loses_work hname hfree hif hcreatable .connection hbarrier hwork

/-- What is done to add twice under one key, under an integer and under its decimal text. -/
def replacingDeeds (l : Ledger) : List Deed :=
  [.schema l .connection, .add l .connection (.integer 5) (.integer 1),
    .add l .connection (.text "5") (.integer 2), .get l .connection (.integer 5)]

/-- To add under the decimal text is to add under the integer. -/
theorem along_replacingDeeds (l : Ledger) (c : Connection) :
    Run.along Deed.perform c (replacingDeeds l) = Run.along Step.perform c (recordedTwice l) := by
  have htext : .text "5" ∈ spellings 5 := List.mem_cons_of_mem _ List.mem_cons_self
  have hinteger : .integer 5 ∈ spellings 5 := List.mem_cons_self
  have hadd (c : Connection) : Deed.perform c (.add l .connection (.text "5") (.integer 2)) =
      Deed.perform c (.add l .connection (.integer 5) (.integer 2)) := by
    simp only [Deed.perform, add_congr l .connection _ htext hinteger]
  have hdeeds : (recordedTwice l).map Deed.ofStep =
      [.schema l .connection, .add l .connection (.integer 5) (.integer 1),
        .add l .connection (.integer 5) (.integer 2), .get l .connection (.integer 5)] := rfl
  have hsteps := Run.along_map Deed.perform Deed.ofStep c (recordedTwice l)
  simp only [Deed.perform_ofStep] at hsteps
  rw [← hsteps, hdeeds]
  simp only [replacingDeeds, Run.along_cons, hadd]

/-- In a table called `excluded` what is added under the decimal text of an integer does not replace
what was added under the integer. -/
theorem answers_replacingDeeds :
    (Run.along Deed.perform (.ofDatabase .empty) (replacingDeeds ⟨"excluded", .qmark⟩)).2.map
      Except.toOption = [some none, some none, some none, some (some ⟨5, 1⟩)] := by
  have hname : isTableName "excluded".toList = true := by decide
  have hhome : (tableName ⟨"excluded", .qmark⟩).home? = some ⟨.main, "excluded"⟩ := by
    decide +kernel
  have hon : ∀ s ∈ recordedTwice ⟨"excluded", .qmark⟩, s.IsOn (some ⟨.main, "excluded"⟩) :=
    isOn_recordedTwice hname hhome
  rw [along_replacingDeeds]
  exact (Follows.run hon).2.trans (by decide +kernel)

/-- Two tables lose ranges: one called `excluded` does not replace what was added under the same
key, and making one called `if` lets the next commit fail and take along what was added before. -/
theorem loses_ranges :
    (Run.along Deed.perform (.ofDatabase .empty) (replacingDeeds ⟨"excluded", .qmark⟩)).2.map
        Except.toOption = [some none, some none, some none, some (some ⟨5, 1⟩)] ∧
      (∃ f, (Deed.commit.perform
        (Run.along Deed.perform (.ofDatabase .empty) losingDeeds).1).2 = .error f) ∧
      ¬ (Deed.commit.perform
          (Run.along Deed.perform (.ofDatabase .empty) losingDeeds).1).1.SameTables
        (Run.along Deed.perform (.ofDatabase .empty) losingDeeds).1 :=
  ⟨answers_replacingDeeds, not_sameTables_losingDeeds⟩

end Ledger

end BatchFrontier
