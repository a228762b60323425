import BatchFrontier.Store.Cell
import BatchFrontier.Store.Function

/-!
# Databases

A database holds tables in a permanent and in a temporary schema. Every table has two columns, the
first of which is a key, and the second always holds something. Names of tables and schemas do not
depend on case.
-/

namespace BatchFrontier.Store

/-- A row of a table. -/
structure Row where
  first : Cell
  last : Cell
  deriving DecidableEq, Repr

/-- A table with its name as it was created. -/
structure Table where
  name : String
  rows : List Row
  deriving DecidableEq, Repr

namespace Table

/-- The row with a key. -/
def find? (t : Table) (key : Cell) : Option Row := t.rows.find? fun r => key.isSame r.first

/-- Whether the table has the name by which a command calls the row that it writes. In such a table
the name means the row that is there. -/
def hidesWritten (t : Table) : Bool := lowered t.name == "excluded"

/-- A stored row after a row with the same key was written. -/
def updated (t : Table) (row written : Row) : Row :=
  if t.hidesWritten then row else ⟨row.first, written.last⟩

/-- The table with a row added, or with the row with the same key updated. -/
def upsert (t : Table) (row : Row) : Table :=
  if (t.find? row.first).isSome then
    { t with rows := t.rows.map fun r => if row.first.isSame r.first then t.updated r row else r }
  else { t with rows := t.rows ++ [row] }

/-- Whether a row comes before another or is like it. -/
def rowLe (a b : Row) : Bool := ((a.first.order b.first).then (a.last.order b.last)).isLE

/-- The rows ordered by both columns. -/
def sorted (t : Table) : List Row := t.rows.mergeSort rowLe

end Table

/-- The two schemas of a database. -/
inductive Schema where
  | main
  | temp
  deriving DecidableEq, Repr

/-- The schema of a name. -/
def Schema.ofName? (s : String) : Option Schema :=
  match lowered s with
  | "main" => some .main
  | "temp" => some .temp
  | _ => none

/-- The tables of a database. -/
structure Database where
  main : List Table
  temp : List Table
  deriving DecidableEq, Repr

namespace Database

/-- A database without tables. -/
def empty : Database := ⟨[], []⟩

/-- The tables of a schema. -/
def tables (d : Database) : Schema → List Table
  | .main => d.main
  | .temp => d.temp

/-- The database with other tables in a schema. -/
def withTables (d : Database) (s : Schema) (ts : List Table) : Database :=
  match s with
  | .main => { d with main := ts }
  | .temp => { d with temp := ts }

/-- Whether a table has a name. -/
def isNamed (name : String) (t : Table) : Bool := lowered t.name == lowered name

/-- The table of a name in a schema. -/
def tableIn? (d : Database) (s : Schema) (name : String) : Option Table :=
  (d.tables s).find? (isNamed name)

/-- The schemas to search for a name, in their order. -/
def searched (n : TableName) : List Schema :=
  match n.schema with
  | none => [.temp, .main]
  | some s => (Schema.ofName? s).toList

/-- The schema in which a named table is found. -/
def locate? (d : Database) (n : TableName) : Option Schema :=
  (searched n).find? fun s => (d.tableIn? s n.table).isSome

/-- The table of a name with its schema. -/
def find? (d : Database) (n : TableName) : Option (Schema × Table) :=
  (d.locate? n).bind fun s => (d.tableIn? s n.table).map fun t => (s, t)

/-- The database's own table that a name stands for, if it stands for one. -/
def ownTable? (n : TableName) : Option String :=
  let isMain := ["sqlite_master", "sqlite_schema"].contains (lowered n.table)
  let isTemp := ["sqlite_temp_master", "sqlite_temp_schema"].contains (lowered n.table)
  let schema := n.schema.map Schema.ofName?
  if isMain && (schema == none || schema == some (some .main)) then some "sqlite_master"
  else if (isMain || isTemp) && schema == some (some .temp) then some "sqlite_temp_master"
  else if isTemp && schema == none then some "sqlite_temp_master"
  else none

/-- Whether a name is set aside for the database's own tables. -/
def isOwnName (name : String) : Bool := "sqlite_".toList.isPrefixOf (lowered name).toList

/-- The schema in which a table of a name can be created. Without a schema it is permanent. -/
def creatable (n : TableName) : Except Fault Schema :=
  match (n.schema.map Schema.ofName?).getD (some .main) with
  | none => .error (.unknownSchema (n.schema.getD ""))
  | some s => if isOwnName n.table then .error (.reservedName n.table) else .ok s

/-- Whether a name stands for a function, because no table has it. -/
def isFunction (d : Database) (n : TableName) : Bool :=
  (ownTable? n).isNone && (d.find? n).isNone && Function.isName n.table

/-- Finds a table to write to; functions are known by some names. -/
def writable (d : Database) (known : List String) (n : TableName) :
    Except Fault (Schema × Table) :=
  match ownTable? n, d.find? n with
  | some own, _ => .error (.protectedTable own)
  | none, some found => .ok found
  | none, none =>
    .error
      (if d.isFunction n then Function.writeFault known n.table else .noSuchTable n.text)

/-- Finds a table to read from. -/
def readable (d : Database) (n : TableName) : Except Fault Table :=
  match ownTable? n, d.find? n with
  | some _, _ => .error (.noSuchColumn "from_batch_num")
  | none, some found => .ok found.2
  | none, none =>
    .error
      (if d.isFunction n then Function.readFault n.table "from_batch_num"
       else .noSuchTable n.text)

/-- The schema in which a table of a name would be made, unless it is there. -/
def missingIn? (d : Database) (n : TableName) : Option Schema :=
  match creatable n with
  | .error _ => none
  | .ok s => if (d.tableIn? s n.table).isSome then none else some s

/-- Whether the text of a table with this name cannot be read back, because it begins like the text
that makes a table only if there is none. -/
def isUnreadable (name : String) : Bool := lowered name == "if"

/-- Creates a table unless it is there. -/
def create (d : Database) (n : TableName) : Except Fault Database := do
  let s ← creatable n
  if isUnreadable n.table then .error (.malformedSchema n.table)
  else if (d.tableIn? s n.table).isSome then .ok d
  else .ok (d.withTables s (d.tables s ++ [⟨n.table, []⟩]))

/-- The database with a row in a table of a schema. -/
def withRow (d : Database) (s : Schema) (t : Table) (row : Row) : Database :=
  d.withTables s ((d.tables s).map fun u => if u.name = t.name then u.upsert row else u)

/-- Writes a row, if its second column holds something. -/
def upsert (d : Database) (known : List String) (n : TableName) (row : Row) :
    Except Fault Database := do
  let (s, t) ← d.writable known n
  if row.last = .null then .error (.missingValue t.name "to_batch_num")
  else .ok (d.withRow s t row)

/-- Whether a command would write: it does not if its table cannot be written to, or is there
already. -/
def isWrittenBy (d : Database) (known : List String) (command : Command) : Bool :=
  match command.verb with
  | .create => (d.missingIn? command.table).isSome
  | .upsert => (d.writable known command.table).isOk
  | .find | .list => false

/-- Whether a command can be carried out, as far as its text tells. -/
def check (d : Database) (known : List String) (command : Command) : Except Fault Unit :=
  match command.verb with
  | .create => (creatable command.table).map fun _ => ()
  | .upsert => (d.writable known command.table).map fun _ => ()
  | .find | .list => (d.readable command.table).map fun _ => ()

/-- Carries out a command: the database after it, and the rows that it reads. -/
def run (d : Database) (known : List String) (command : Command) (parameters : List Cell) :
    Except Fault (Database × List Row) :=
  match command.verb, parameters with
  | .create, [] => (d.create command.table).map fun d => (d, [])
  | .upsert, [first, last] => (d.upsert known command.table ⟨first, last⟩).map fun d => (d, [])
  | .find, [key] => (d.readable command.table).map fun t => (d, (t.find? key).toList)
  | .list, [] => (d.readable command.table).map fun t => (d, t.sorted)
  | verb, parameters => .error (.parameterCount verb.places parameters.length)

end Database

end BatchFrontier.Store
