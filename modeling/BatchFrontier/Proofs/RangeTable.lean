import BatchFrontier.Proofs.StatementText
import Mathlib.Logic.Function.Basic

/-!
# The table of a ledger

The store makes the table of a name in one schema, under the name in lower case. Two names that
agree in both name one table. As long as no other table is made, every command on such a name
reaches that table. Its rows are ranges of batches, at most one for each first batch.
-/

namespace BatchFrontier.Store

/-- Integers are the same key if they are equal. -/
theorem Cell.isSame_integer (a b : Int) : (integer a).isSame (.integer b) = decide (a = b) := by
  rw [Bool.eq_iff_iff]
  simp [isSame, order, rank, compareNumbers, scaled?]

/-- An integer of 64 bits is stored as it is. -/
theorem Cell.ofValue_toInt (position : Nat) (n : Int64) :
    ofValue position (.integer n.toInt) = .ok (.integer n.toInt) := by
  have hlow := n.le_toInt
  have hhigh := n.toInt_lt
  have hfits : fits n.toInt = true := by
    simp only [fits, Bool.and_eq_true, decide_eq_true_eq]
    omega
  rw [ofValue, if_pos hfits]

/-- Integers of 64 bits are taken as parameters as they are. -/
theorem Cell.ofValues_toInt (position : Nat) (ns : List Int64) :
    ofValues position (ns.map fun n => .integer n.toInt) =
      .ok (ns.map fun n => .integer n.toInt) := by
  induction ns generalizing position with
  | nil => rfl
  | cons n ns ih =>
    simp only [List.map_cons, ofValues, ofValue_toInt, ih, bind, Except.bind, pure, Except.pure]

/-! ## Ranges in rows -/

/-- The row of a range. -/
def Row.ofRange (e : Int64 × Int64) : Row := ⟨.integer e.1.toInt, .integer e.2.toInt⟩

/-- What becomes of a range that is recorded again. -/
inductive Rule where
  /-- It ends where it is said to end now. -/
  | replace
  /-- It ends where it ended before. -/
  | retain
  deriving DecidableEq, Repr

namespace Rule

/-- The rule for a table with a name in lower case. -/
def ofName (name : String) : Rule := if name = "excluded" then .retain else .replace

/-- The end of a range after it was recorded. -/
def last (rule : Rule) (stored : Option Int64) (written : Int64) : Int64 :=
  match rule with
  | .replace => written
  | .retain => stored.getD written

/-- The ranges after one was recorded. -/
def record (rule : Rule) (m : Int64 → Option Int64) (first last : Int64) : Int64 → Option Int64 :=
  Function.update m first (some (rule.last (m first) last))

/-- The listed ranges after one was recorded. -/
def recordIn (rule : Rule) (es : List (Int64 × Int64)) (first last : Int64) :
    List (Int64 × Int64) :=
  if (es.lookup first).isSome then
    es.map fun e => if first = e.1 then (e.1, rule.last (some e.2) last) else e
  else es ++ [(first, last)]

/-- Recording a range in a list with that first batch changes its end and no other range. -/
theorem lookup_map_last (rule : Rule) (es : List (Int64 × Int64)) (first last key : Int64) :
    (es.map fun e => if first = e.1 then (e.1, rule.last (some e.2) last) else e).lookup key =
      if key = first then (es.lookup key).map fun t => rule.last (some t) last
      else es.lookup key := by
  induction es with
  | nil => simp
  | cons e es ih =>
    rw [List.map_cons]
    by_cases hfirst : first = e.1
    · rw [if_pos hfirst, List.lookup_cons, ih, List.lookup_cons]
      by_cases hkey : key = e.1
      · simp [hfirst, hkey]
      · simp [hfirst, hkey, beq_false_of_ne hkey]
    · rw [if_neg hfirst, List.lookup_cons, ih, List.lookup_cons]
      by_cases hkey : key = e.1
      · simp [hkey, Ne.symm hfirst]
      · simp [beq_false_of_ne hkey]

/-- Recording in a list records in the map that the list stands for. -/
theorem lookup_recordIn (rule : Rule) (es : List (Int64 × Int64)) (first last key : Int64) :
    (rule.recordIn es first last).lookup key =
      rule.record (fun f => es.lookup f) first last key := by
  unfold recordIn record
  rw [Function.update_apply]
  cases hstored : es.lookup first with
  | some t =>
    rw [Option.isSome_some, if_pos rfl, lookup_map_last]
    by_cases hkey : key = first
    · simp [hkey, hstored]
    · simp [hkey]
  | none =>
    rw [Option.isSome_none, if_neg Bool.false_ne_true, List.lookup_append]
    by_cases hkey : key = first
    · subst hkey
      cases rule <;> simp [hstored, Rule.last]
    · simp [hkey, beq_false_of_ne hkey]

/-- No first batch is listed twice after a range was recorded. -/
theorem nodup_recordIn (rule : Rule) {es : List (Int64 × Int64)}
    (h : (es.map Prod.fst).Nodup) (first last : Int64) :
    ((rule.recordIn es first last).map Prod.fst).Nodup := by
  unfold recordIn
  split
  · have hfirsts :
        ((es.map fun e => if first = e.1 then (e.1, rule.last (some e.2) last) else e).map
          Prod.fst) = es.map Prod.fst := by
      rw [List.map_map]
      refine List.map_congr_left fun e _ => ?_
      simp only [Function.comp_apply]
      split <;> rfl
    rw [hfirsts]
    exact h
  · next hnone =>
    have hmem : first ∉ es.map Prod.fst := by
      intro hmem
      obtain ⟨e, he, hfirst⟩ := List.mem_map.mp hmem
      exact hnone (List.lookup_isSome_iff.mpr ⟨e, he, by simp [hfirst]⟩)
    rw [List.map_append, List.nodup_append]
    refine ⟨h, by simp, ?_⟩
    intro key hkey key' hkey' heq
    have hfirst : key' = first := by simpa using hkey'
    exact hmem (hfirst ▸ heq ▸ hkey)

end Rule

namespace Table

/-- The row of a first batch holds the range that is listed for it. -/
theorem find?_ofRange (title : String) (es : List (Int64 × Int64)) (first : Int64) :
    (⟨title, es.map Row.ofRange⟩ : Table).find? (.integer first.toInt) =
      (es.lookup first).map fun t => Row.ofRange (first, t) := by
  unfold find?
  induction es with
  | nil => rfl
  | cons e es ih =>
    obtain ⟨key, stored⟩ := e
    simp only [List.map_cons, List.find?_cons, List.lookup_cons]
    by_cases hfirst : first = key
    · simp [Row.ofRange, Cell.isSame_integer, hfirst]
    · simpa [Row.ofRange, Cell.isSame_integer, Int64.toInt_inj, hfirst,
        beq_false_of_ne hfirst] using ih

/-- Writing the row of a range records the range, by the rule for the table's name. -/
theorem upsert_ofRange (title : String) (es : List (Int64 × Int64)) (first last : Int64) :
    (⟨title, es.map Row.ofRange⟩ : Table).upsert (Row.ofRange (first, last)) =
      ⟨title, ((Rule.ofName (lowered title)).recordIn es first last).map Row.ofRange⟩ := by
  have hfound : (find? ⟨title, es.map Row.ofRange⟩ (Row.ofRange (first, last)).first).isSome =
      (es.lookup first).isSome := by
    rw [Row.ofRange, find?_ofRange, Option.isSome_map]
  unfold upsert Rule.recordIn
  simp only [hfound]
  split
  · simp only [List.map_map, Table.mk.injEq, true_and]
    refine List.map_congr_left fun e _ => ?_
    by_cases hfirst : first = e.1
    · by_cases hname : lowered title = "excluded" <;>
        simp [Row.ofRange, Cell.isSame_integer, hfirst, updated, hidesWritten, hname, Rule.ofName,
          Rule.last]
    · simp [Row.ofRange, Cell.isSame_integer, Int64.toInt_inj, hfirst]
  · simp

end Table

/-! ## One table in a database -/

/-- Where the store keeps a table: in a schema, under a name in lower case. -/
structure Home where
  schema : Schema
  name : String
  deriving DecidableEq, Repr

/-- Where the store makes the table of a name, if it can make one. -/
def TableName.home? (n : TableName) : Option Home :=
  if n.isFree && !Database.isUnreadable n.table then
    (Database.creatable n).toOption.map fun s => ⟨s, lowered n.table⟩
  else none

/-- A name whose table the store can make is free, can be read back and is not set aside. -/
theorem TableName.home?_eq_some {n : TableName} {home : Home} :
    n.home? = some home ↔ n.isFree = true ∧ Database.isUnreadable n.table = false ∧
      Database.creatable n = .ok home.schema ∧ lowered n.table = home.name := by
  unfold home?
  obtain ⟨schema, name⟩ := home
  cases Database.creatable n with
  | error f => simp [Except.toOption]
  | ok s => simp [Except.toOption, and_assoc]

namespace Database

/-- The schema in which a table can be made is the one that its name gives, or the permanent one. -/
theorem schema_of_creatable {n : TableName} {s : Schema} (h : creatable n = .ok s) :
    isOwnName n.table = false ∧
      (n.schema = none ∧ s = .main ∨ ∃ t, n.schema = some t ∧ Schema.ofName? t = some s) := by
  unfold creatable at h
  split at h
  · exact absurd h (by simp)
  · next schema hschema =>
    split at h
    · exact absurd h (by simp)
    · next hown =>
      obtain rfl : schema = s := by simpa using h
      refine ⟨by simpa using hown, ?_⟩
      cases hgiven : n.schema with
      | none => exact .inl ⟨rfl, by simpa [hgiven] using hschema.symm⟩
      | some t => exact .inr ⟨t, rfl, by simpa [hgiven] using hschema⟩

/-- No name of the database's own tables is free for others. -/
theorem ownTable?_eq_none {n : TableName} (h : isOwnName n.table = false) : ownTable? n = none := by
  have hother (name : String) (hname : isOwnName name = true) (hlower : lowered name = name) :
      lowered n.table ≠ name := by
    intro heq
    rw [isOwnName, heq] at h
    rw [isOwnName, hlower] at hname
    exact Bool.false_ne_true (h.symm.trans hname)
  have hmaster := hother "sqlite_master" (by decide +kernel) (by decide +kernel)
  have hschema := hother "sqlite_schema" (by decide +kernel) (by decide +kernel)
  have htempMaster := hother "sqlite_temp_master" (by decide +kernel) (by decide +kernel)
  have htempSchema := hother "sqlite_temp_schema" (by decide +kernel) (by decide +kernel)
  simp [ownTable?, hmaster, hschema, htempMaster, htempSchema]

/-- The database that holds one table. -/
def only (s : Schema) (t : Table) : Database := empty.withTables s [t]

theorem tables_only (s : Schema) (t : Table) : (only s t).tables s = [t] := by cases s <;> rfl

/-- The one table is found under every name that the store makes it for. -/
theorem find?_only {n : TableName} {home : Home} (hn : n.home? = some home) {title : String}
    (htitle : lowered title = home.name) (rows : List Row) :
    (only home.schema ⟨title, rows⟩).find? n = some (home.schema, ⟨title, rows⟩) := by
  obtain ⟨-, -, hcreatable, hlower⟩ := TableName.home?_eq_some.mp hn
  have hnamed : isNamed n.table ⟨title, rows⟩ = true := by simp [isNamed, htitle, hlower]
  rcases schema_of_creatable hcreatable with ⟨-, ⟨hschema, hmain⟩ | ⟨given, hschema, hgiven⟩⟩
  · simp [find?, locate?, searched, hschema, hmain, tableIn?, only, withTables, tables, empty,
      hnamed]
  · simp [find?, locate?, searched, hschema, hgiven, tableIn?, tables_only, hnamed]

/-- No table is found where there is none. -/
theorem find?_empty (n : TableName) : empty.find? n = none := by
  have hnone (s : Schema) : empty.tableIn? s n.table = none := by cases s <;> rfl
  simp [find?, locate?, hnone]

/-- That a database holds the table of a home with the ranges of a map, each in one row, and no
other table. -/
def Records (home : Home) (m : Int64 → Option Int64) (d : Database) : Prop :=
  ∃ (title : String) (es : List (Int64 × Int64)), lowered title = home.name ∧
    (es.map Prod.fst).Nodup ∧ (∀ f, es.lookup f = m f) ∧
    d = only home.schema ⟨title, es.map Row.ofRange⟩

/-- A database holds the ranges of one map only. -/
theorem Records.unique {home : Home} {m m' : Int64 → Option Int64} {d : Database}
    (h : Records home m d) (h' : Records home m' d) : m = m' := by
  obtain ⟨title, es, -, -, hes, rfl⟩ := h
  obtain ⟨title', es', -, -, hes', heq⟩ := h'
  have htables := congrArg (fun d => d.tables home.schema) heq
  simp only [tables_only, List.cons.injEq, Table.mk.injEq, and_true] at htables
  have hrows : es = es' := by
    refine List.map_injective_iff.mpr ?_ htables.2
    intro e e' hrow
    simp only [Row.ofRange, Row.mk.injEq, Cell.integer.injEq, Int64.toInt_inj] at hrow
    exact Prod.ext hrow.1 hrow.2
  funext f
  rw [← hes, ← hes', hrows]

section

variable {n : TableName} {home : Home} (hn : n.home? = some home)

include hn

/-- The one table can be written to under every name that the store makes it for. -/
theorem writable_only {title : String} (htitle : lowered title = home.name) (rows : List Row)
    (known : List String) :
    (only home.schema ⟨title, rows⟩).writable known n = .ok (home.schema, ⟨title, rows⟩) := by
  obtain ⟨-, -, hcreatable, -⟩ := TableName.home?_eq_some.mp hn
  rw [writable, ownTable?_eq_none (schema_of_creatable hcreatable).1, find?_only hn htitle]

/-- The one table can be read under every name that the store makes it for. -/
theorem readable_only {title : String} (htitle : lowered title = home.name) (rows : List Row) :
    (only home.schema ⟨title, rows⟩).readable n = .ok ⟨title, rows⟩ := by
  obtain ⟨-, -, hcreatable, -⟩ := TableName.home?_eq_some.mp hn
  rw [readable, ownTable?_eq_none (schema_of_creatable hcreatable).1, find?_only hn htitle]

/-- The table can always be made. -/
theorem check_create (d : Database) (known : List String) :
    d.check known ⟨.create, n⟩ = .ok () := by
  obtain ⟨-, -, hcreatable, -⟩ := TableName.home?_eq_some.mp hn
  rw [check, hcreatable]
  rfl

omit hn in
/-- A command that makes a table in some database has a name whose table can be made. -/
theorem home?_of_run_create {d d' : Database} {known : List String} {cells : List Cell}
    {rows : List Row} (hfree : n.isFree = true)
    (hrun : d.run known ⟨.create, n⟩ cells = .ok (d', rows)) :
    ∃ home, n.home? = some home := by
  cases cells with
  | cons cell cells => exact absurd hrun (by simp [run])
  | nil =>
    cases hcreatable : creatable n with
    | error f => simp [run, create, hcreatable, bind, Except.bind, Except.map] at hrun
    | ok s =>
      cases hreadable : isUnreadable n.table with
      | true => simp [run, create, hcreatable, hreadable, bind, Except.bind, Except.map] at hrun
      | false =>
        exact ⟨⟨s, lowered n.table⟩,
          TableName.home?_eq_some.mpr ⟨hfree, hreadable, hcreatable, rfl⟩⟩

/-- The table that a command makes where there is none is empty. -/
theorem run_create_empty (known : List String) :
    empty.run known ⟨.create, n⟩ [] = .ok (only home.schema ⟨n.table, []⟩, []) := by
  obtain ⟨-, hreadable, hcreatable, -⟩ := TableName.home?_eq_some.mp hn
  have hnone : empty.tableIn? home.schema n.table = none := by cases home.schema <;> rfl
  have htables : empty.tables home.schema = [] := by cases home.schema <;> rfl
  simp [run, create, hcreatable, hreadable, hnone, htables, bind, Except.bind, only, Except.map]

/-- A table that was just made holds no range. -/
theorem records_made : Records home (fun _ => none) (only home.schema ⟨n.table, []⟩) := by
  obtain ⟨-, -, -, hlower⟩ := TableName.home?_eq_some.mp hn
  exact ⟨n.table, [], hlower, List.nodup_nil, fun _ => rfl, rfl⟩

/-- Without its table a command that does not make it cannot be carried out. -/
theorem check_empty (known : List String) {verb : Verb} (hverb : verb ≠ .create) :
    ∃ f, empty.check known ⟨verb, n⟩ = .error f := by
  obtain ⟨-, -, hcreatable, -⟩ := TableName.home?_eq_some.mp hn
  have hown := ownTable?_eq_none (schema_of_creatable hcreatable).1
  cases verb with
  | create => exact absurd rfl hverb
  | upsert => exact ⟨_, by rw [check, writable, hown, find?_empty]; rfl⟩
  | find => exact ⟨_, by rw [check, readable, hown, find?_empty]; rfl⟩
  | list => exact ⟨_, by rw [check, readable, hown, find?_empty]; rfl⟩

variable {m : Int64 → Option Int64} {d : Database} (hd : Records home m d)

include hd

/-- With its table every command can be carried out. -/
theorem check_of_records (known : List String) (verb : Verb) :
    d.check known ⟨verb, n⟩ = .ok () := by
  obtain ⟨title, es, htitle, -, -, rfl⟩ := hd
  cases verb with
  | create => exact check_create hn _ known
  | upsert => rw [check, writable_only hn htitle]; rfl
  | find => rw [check, readable_only hn htitle]; rfl
  | list => rw [check, readable_only hn htitle]; rfl

/-- Making the table again changes nothing. -/
theorem run_create_of_records (known : List String) :
    d.run known ⟨.create, n⟩ [] = .ok (d, []) := by
  obtain ⟨-, hreadable, hcreatable, hlower⟩ := TableName.home?_eq_some.mp hn
  obtain ⟨title, es, htitle, -, -, rfl⟩ := hd
  have hnamed : isNamed n.table ⟨title, es.map Row.ofRange⟩ = true := by
    simp [isNamed, htitle, hlower]
  simp [run, create, hcreatable, hreadable, tableIn?, tables_only, hnamed, bind, Except.bind,
    Except.map]

/-- Writing a range records it and touches no other range. -/
theorem run_upsert_of_records (first last : Int64) :
    ∃ d', Records home ((Rule.ofName home.name).record m first last) d' ∧ ∀ known,
      d.run known ⟨.upsert, n⟩ [.integer first.toInt, .integer last.toInt] = .ok (d', []) := by
  obtain ⟨title, es, htitle, hnodup, hes, rfl⟩ := hd
  have hm : (fun f => es.lookup f) = m := funext hes
  have hupsert := Table.upsert_ofRange title es first last
  rw [htitle] at hupsert
  refine ⟨only home.schema ⟨title, _⟩, ⟨title, _, htitle,
    Rule.nodup_recordIn (Rule.ofName home.name) hnodup first last, fun f => ?_, rfl⟩,
    fun known => ?_⟩
  · rw [Rule.lookup_recordIn, hm]
  · have hrow : withRow (only home.schema ⟨title, es.map Row.ofRange⟩) home.schema
        ⟨title, es.map Row.ofRange⟩ (Row.ofRange (first, last)) =
        only home.schema ⟨title, ((Rule.ofName home.name).recordIn es first last).map
          Row.ofRange⟩ := by
      simp only [withRow, tables_only, List.map_cons, List.map_nil, if_true, hupsert]
      cases home.schema <;> rfl
    simp only [Row.ofRange] at hrow
    simp [run, upsert, writable_only hn htitle, hrow, bind, Except.bind, Except.map]

/-- Looking up a first batch reads its range, and changes nothing. -/
theorem run_find_of_records (known : List String) (first : Int64) :
    d.run known ⟨.find, n⟩ [.integer first.toInt] =
      .ok (d, ((m first).map fun last => Row.ofRange (first, last)).toList) := by
  obtain ⟨title, es, htitle, -, hes, rfl⟩ := hd
  simp [run, readable_only hn htitle, Except.map, Table.find?_ofRange, hes]

end

end Database

end BatchFrontier.Store
