import BatchFrontier.Json.Printer
import BatchFrontier.Json.Reader
import BatchFrontier.Store.Database

/-!
# Snapshots of databases

The permanent tables of a database as a JSON document, from which the database is read back: a
record of tables, each with its name and its rows.
-/

namespace BatchFrontier.Store

/-- A cell as a value; bytes are told from texts by a record. -/
def Cell.toDocument : Cell → Value
  | .blob bs => .record [("bytes", .text (String.ofList (Hex.write bs)))]
  | c => c.toValue

/-- A cell from a value. -/
def Cell.ofDocument? : Value → Option Cell
  | .nothing => some .null
  | .integer n => if fits n then some (.integer n) else none
  | .real x => some (.real x)
  | .text t => t.toString?.map .text
  | .record fields =>
    match Value.field? fields "bytes" with
    | some (.text digits) => (Hex.read? digits.chars).map .blob
    | _ => none
  | _ => none

/-- A row from a value. -/
def Row.ofDocument? : Value → Option Row
  | .list [first, last] => do
    let first ← Cell.ofDocument? first
    let last ← Cell.ofDocument? last
    pure ⟨first, last⟩
  | _ => none

/-- A table as a value. -/
def Table.toDocument (t : Table) : Value :=
  .record [("name", .text t.name),
    ("rows", .list (t.rows.map fun r => .list [r.first.toDocument, r.last.toDocument]))]

/-- A table from a value. -/
def Table.ofDocument? : Value → Option Table
  | .record fields =>
    match Value.field? fields "name", Value.field? fields "rows" with
    | some (.text name), some (.list rows) => do
      let name ← name.toString?
      let rows ← rows.mapM Row.ofDocument?
      pure ⟨name, rows⟩
    | _, _ => none
  | _ => none

namespace Database

/-- The text of a database; temporary tables are left out. -/
def snapshot (d : Database) : String :=
  Json.write .compact (.record [("tables", .list (d.main.map Table.toDocument))]) ++ "\n"

/-- The database of a text. -/
def ofSnapshot? (cs : List Char) : Option Database :=
  match Json.read cs with
  | .ok (.record fields) =>
    match Value.field? fields "tables" with
    | some (.list tables) => (tables.mapM Table.ofDocument?).map fun ts => ⟨ts, []⟩
    | _ => none
  | _ => none

end Database

end BatchFrontier.Store
