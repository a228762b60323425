import BatchFrontier.Proofs.LedgerSoundness

/-!
# Ways to speak to the store

A ledger may speak through the connection, through a cursor of it, or through a cursor that writes
places in the other style and keeps its rows to itself. In the style that belongs to it each of them
is as good as any other: what is done answers the same and leaves the same connection, also when
every task takes a way of its own.
-/

namespace BatchFrontier

namespace Ledger

open Store (Connection)

/-! ## Names that are accepted -/

/-- The name of a table is accepted with every style. -/
theorem create_of_isTableName {t : Text} (h : isTableName t.chars = true)
    (style : PlaceholderStyle) :
    create (.text t) (.text style.name) = .ok ⟨String.ofList t.chars, style⟩ := by
  cases style <;> simp only [create, h] <;> rfl

/-- Only the name of a table is accepted, and the ledger is kept in that table. -/
theorem isTableName_of_create {t : Text} {style : Value} {l : Ledger}
    (h : create (.text t) style = .ok l) :
    isTableName t.chars = true ∧ l.table = String.ofList t.chars := by
  unfold create at h
  simp only at h
  split at h
  · cases h
  · next hname =>
    refine ⟨by simpa using hname, ?_⟩
    split at h
    · split at h
      · obtain rfl := Except.ok.inj h
        rfl
      · cases h
    · split at h <;> cases h

/-! ## Ways -/

/-- A way to speak to the store: a handle and the style that belongs to it. -/
inductive Way where
  | connection
  | cursor
  | format
  | pyformat
  deriving DecidableEq, Repr

namespace Way

/-- The style of a way. -/
def style : Way → PlaceholderStyle
  | .connection | .cursor => .qmark
  | .format => .format
  | .pyformat => .pyformat

/-- The handle of a way. -/
def handle : Way → Handle
  | .connection => .connection
  | .cursor => .cursor
  | .format | .pyformat => .formatting

/-- The ledger for a way, in a table. -/
def ledger (w : Way) (table : String) : Ledger := ⟨table, w.style⟩

/-- On every way the statements reach the store as those of one ledger. -/
theorem reaching_ledger (w : Way) (table : String) :
    w.handle.reaching (w.ledger table) = ⟨table, .qmark⟩ := by
  cases w <;> rfl

section

variable {table : String} (hname : isTableName table.toList = true) (w v : Way) (c : Connection)

include hname

/-- The text of a statement reaches the store alike on all ways. -/
theorem prepared_text_eq {f : Frame} (hf : f.Lawful) :
    w.handle.prepared (f.text (w.ledger table)) = v.handle.prepared (f.text (v.ledger table)) := by
  have hreaches (u : Way) :
      u.handle.prepared (f.text (u.ledger table)) = f.text ⟨table, .qmark⟩ := by
    have hledger : isTableName (u.ledger table).table.toList = true := hname
    rw [Handle.prepared_text hf hledger, reaching_ledger]
  rw [hreaches w, hreaches v]

/-- The table is created alike on all ways. -/
theorem execute_schema_eq : w.handle.execute c (w.ledger table).schemaStatement =
    v.handle.execute c (v.ledger table).schemaStatement := by
  have htext := prepared_text_eq hname w v Frame.create_lawful
  rw [Frame.text_create, Frame.text_create] at htext
  rw [Handle.execute, htext]
  rfl

/-- A range is recorded alike on all ways. -/
theorem execute_add_eq (first last : Value) :
    w.handle.execute c ((w.ledger table).addStatement first last) =
      v.handle.execute c ((v.ledger table).addStatement first last) := by
  have htext := prepared_text_eq hname w v Frame.upsert_lawful
  rw [Frame.text_upsert _ first last, Frame.text_upsert _ first last] at htext
  rw [Handle.execute, htext]
  rfl

/-- A range is looked up alike on all ways. -/
theorem execute_get_eq (first : Value) :
    w.handle.execute c ((w.ledger table).getStatement first) =
      v.handle.execute c ((v.ledger table).getStatement first) := by
  have htext := prepared_text_eq hname w v Frame.find_lawful
  rw [Frame.text_find _ first, Frame.text_find _ first] at htext
  rw [Handle.execute, htext]
  rfl

end

end Way

/-! ## Tasks -/

/-- What is to be done on a connection, whatever way it takes. -/
inductive Task where
  | schema
  | add (first last : Value)
  | get (first : Value)
  | commit
  | rollback
  deriving Repr

/-- A task on a table, done in a way. -/
def Task.along (table : String) (w : Way) : Task → Deed
  | .schema => .schema (w.ledger table) w.handle
  | .add first last => .add (w.ledger table) w.handle first last
  | .get first => .get (w.ledger table) w.handle first
  | .commit => .commit
  | .rollback => .rollback

/-- A task is done alike on all ways. -/
theorem Task.perform_along_eq {table : String} (hname : isTableName table.toList = true)
    (w v : Way) (c : Connection) (t : Task) :
    (t.along table w).perform c = (t.along table v).perform c := by
  cases t with
  | schema =>
    have hexecute := Way.execute_schema_eq hname w v c
    simp only [Task.along, Deed.perform, createSchema_eq, hexecute]
  | add first last =>
    have hexecute := Way.execute_add_eq hname w v c first last
    simp only [Task.along, Deed.perform, add_eq, hexecute]
  | get first =>
    -- Where the first row is fetched from differs between the ways; the row does not.
    have hexecute := Way.execute_get_eq hname w v c first
    simp only [Task.along, Deed.perform, get?_eq, hexecute]
  | commit => rfl
  | rollback => rfl

/-- Does tasks on a table in their order, each in a way of its own. -/
def perform (table : String) (c : Connection) (tasks : List (Way × Task)) :
    Connection × List (Except Fault (Option Sequence)) :=
  Run.along (fun c t => (t.2.along table t.1).perform c) c tasks

/-- Tasks are done alike on all ways. -/
theorem perform_eq {table : String} (hname : isTableName table.toList = true) (c : Connection)
    (tasks : List (Way × Task)) (w : Way) :
    perform table c tasks = perform table c (tasks.map fun t => (w, t.2)) := by
  have hstep : (fun (c : Connection) (t : Way × Task) => (t.2.along table t.1).perform c) =
      fun c t => (t.2.along table w).perform c := by
    funext c t
    exact t.2.perform_along_eq hname t.1 w c
  rw [perform, perform, Run.along_map, hstep]

/-! ## Agreement -/

/-- That all ways to a table, whose name is some text, are as good as each other. -/
structure WaysAgree (t : Text) (table : String) : Prop where
  /-- The name is accepted with the style of every way. -/
  accepted : ∀ w : Way, create (.text t) (.text w.style.name) = .ok (w.ledger table)
  /-- Tasks in any ways answer as they do in one way, and leave the connection as it does. -/
  alike : ∀ (c : Connection) (tasks : List (Way × Task)) (w : Way),
    perform table c tasks = perform table c (tasks.map fun t => (w, t.2))
  /-- Whatever ways were taken, the same rows stand in the table in the end. -/
  rows : ∀ (c : Connection) (tasks : List (Way × Task)) (w v : Way),
    ((w.ledger table).rows (perform table c tasks).1).2 =
      ((v.ledger table).rows (perform table c (tasks.map fun t => (v, t.2))).1).2

/-- All ways agree on every table whose name is accepted. -/
theorem waysAgree_of_create {t : Text} {style : Value} {l : Ledger}
    (h : create (.text t) style = .ok l) : WaysAgree t l.table := by
  obtain ⟨hname, htable⟩ := isTableName_of_create h
  have hreads : isTableName l.table.toList = true := by rwa [htable, String.toList_ofList]
  refine ⟨?_, perform_eq hreads, ?_⟩
  · intro w
    rw [htable]
    exact create_of_isTableName hname w.style
  · intro c tasks w v
    rw [← perform_eq hreads c tasks v]
    rfl

/-- Tasks that take all ways, some of which are refused. -/
def mixedTasks : List (Way × Task) :=
  [(.format, .get (.integer 5)), (.cursor, .schema), (.pyformat, .add (.integer 5) (.integer 1)),
    (.connection, .add (.text "5") (.integer 2)), (.format, .get (.integer 5)),
    (.cursor, .add (.integer 7) .nothing), (.pyformat, .get (.text "5")), (.connection, .commit),
    (.format, .add (.integer 8) (.integer 9)), (.cursor, .rollback), (.format, .get (.integer 8))]

theorem waysAgree_mixedTasks :
    create (.text "main.range") (.text "qmark") = .ok ⟨"main.range", .qmark⟩ ∧
      perform "main.range" (.ofDatabase .empty) mixedTasks =
        perform "main.range" (.ofDatabase .empty) (mixedTasks.map fun t => (.pyformat, t.2)) := by
  have hcreate : create (.text "main.range") (.text "qmark") = .ok ⟨"main.range", .qmark⟩ := rfl
  exact ⟨hcreate, (waysAgree_of_create hcreate).alike _ mixedTasks .pyformat⟩

end Ledger

end BatchFrontier
