import BatchFrontier.Conversion
import BatchFrontier.Store.Connection

/-!
# The ledger of sequences

A ledger records which ranges of batches were sent for verification: for the first batch of a range
its last batch. It speaks to the store in statements, each a text with places for its parameters;
values never enter the text. Transactions are the caller's business.
-/

namespace BatchFrontier

/-- A range of batches. -/
structure Sequence where
  first : Int
  last : Int
  deriving DecidableEq, Repr

/-- A text for the store, with the parameters for its places. -/
structure Statement where
  text : String
  parameters : List Value
  deriving Repr

/-- How the places for parameters are written. -/
inductive PlaceholderStyle where
  | qmark
  | format
  | pyformat
  deriving DecidableEq, Repr

namespace PlaceholderStyle

/-- The name of a style. -/
def name : PlaceholderStyle → String
  | .qmark => "qmark"
  | .format => "format"
  | .pyformat => "pyformat"

/-- The style of a name. -/
def ofName? (s : String) : Option PlaceholderStyle :=
  match s with
  | "qmark" => some .qmark
  | "format" => some .format
  | "pyformat" => some .pyformat
  | _ => none

/-- How a place is written. -/
def mark : PlaceholderStyle → String
  | .qmark => "?"
  | .format | .pyformat => "%s"

end PlaceholderStyle

/-- A ledger, kept in a table. -/
structure Ledger where
  table : String
  style : PlaceholderStyle
  deriving DecidableEq, Repr

namespace Ledger

/-- Whether a character may begin a part of a table's name: an ASCII letter or an underscore. -/
def startsName (c : Char) : Bool := c.isAlpha || c == '_'

/-- Whether a character may stand in a part of a table's name. -/
def continuesName (c : Char) : Bool := c.isAlphanum || c == '_'

/-- Whether a text is a part of a table's name. -/
def isName : List Char → Bool
  | [] => false
  | c :: cs => startsName c && cs.all continuesName

/-- Whether a text is the name of a table: one part, or two parts with a point between them. -/
def isTableName (cs : List Char) : Bool :=
  let first := cs.takeWhile (· != '.')
  match cs.drop first.length with
  | [] => isName first
  | _ :: second => isName first && isName second

/-- Makes a ledger. The name of the table is looked at before the style. -/
def create (table style : Value) : Except Fault Ledger :=
  match table with
  | .text t =>
    if isTableName t.chars = false then .error (.tableName table)
    else
      match style with
      | .text s =>
        match s.toString?.bind PlaceholderStyle.ofName? with
        | some style => .ok ⟨String.ofList t.chars, style⟩
        | none => .error (.placeholderStyle style)
      | v => if v.isKey then .error (.showing .placeholderStyle v) else .error (.mistyped v.kind)
  | v => .error (.mistyped v.kind)

/-- The table that is used unless another is named. -/
def defaultTable : String := "sequence"

/-- The ledger in the default table. -/
def default : Ledger := ⟨defaultTable, .qmark⟩

/-- The statement that creates the table. -/
def schemaStatement (l : Ledger) : Statement :=
  ⟨"CREATE TABLE IF NOT EXISTS " ++ l.table ++
    " (from_batch_num BIGINT PRIMARY KEY, to_batch_num BIGINT NOT NULL)", []⟩

/-- The statement that records a range. -/
def addStatement (l : Ledger) (first last : Value) : Statement :=
  ⟨"INSERT INTO " ++ l.table ++ " (from_batch_num, to_batch_num) VALUES (" ++ l.style.mark ++
    ", " ++ l.style.mark ++ ") ON CONFLICT (from_batch_num) DO UPDATE SET " ++
    "to_batch_num = excluded.to_batch_num", [first, last]⟩

/-- The statement that looks a range up by its first batch. -/
def getStatement (l : Ledger) (first : Value) : Statement :=
  ⟨"SELECT from_batch_num, to_batch_num FROM " ++ l.table ++ " WHERE from_batch_num = " ++
    l.style.mark, [first]⟩

/-- The statement that lists all ranges. -/
def listStatement (l : Ledger) : Statement :=
  ⟨"SELECT from_batch_num, to_batch_num FROM " ++ l.table ++
    " ORDER BY from_batch_num, to_batch_num", []⟩

/-- A row as a value. -/
def rowValue (r : Store.Row) : Value := .tuple [r.first.toValue, r.last.toValue]

/-- The range in a row, if there is a row. -/
def sequenceOf (row : Value) : Except Fault (Option Sequence) :=
  match row with
  | .nothing => .ok none
  | row => do
    let first ← (← row.item 0).toInteger
    let last ← (← row.item 1).toInteger
    pure (some ⟨first, last⟩)

end Ledger

/-- What a ledger writes through: the connection, a cursor of it, or a cursor that writes the places
for parameters in the other style and keeps the rows it reads to itself. -/
inductive Handle where
  | connection
  | cursor
  | formatting
  deriving DecidableEq, Repr

namespace Handle

/-- A text with each place in the other style written as the store writes it. -/
def withMarks : List Char → List Char
  | '%' :: 's' :: rest => '?' :: withMarks rest
  | c :: rest => c :: withMarks rest
  | [] => []

/-- The text that reaches the store. -/
def prepared (h : Handle) (text : String) : String :=
  match h with
  | .formatting => String.ofList (withMarks text.toList)
  | _ => text

/-- Carries a statement out. -/
def execute (h : Handle) (c : Store.Connection) (s : Statement) :
    Store.Connection × Except Fault (List Store.Row) :=
  c.execute (h.prepared s.text) s.parameters

/-- Where the rows that a statement read can be fetched. -/
structure Offer where
  /-- The rows of what the handle gave back, if it gave anything back. -/
  given : Option (List Store.Row)
  /-- The rows of the handle itself, if rows can be fetched from it. -/
  held : Option (List Store.Row)

/-- Where a handle offers the rows that a statement read. A connection gives a new cursor back, a
cursor itself, and a cursor that keeps the rows to itself gives nothing back. -/
def offer (h : Handle) (rows : List Store.Row) : Offer :=
  match h with
  | .connection => ⟨some rows, none⟩
  | .cursor => ⟨some rows, some rows⟩
  | .formatting => ⟨none, some rows⟩

/-- The first row, or nothing if there is none: from what was given back, or else from the
handle. -/
def Offer.fetchFirst (o : Offer) : Except Fault Value :=
  match o.given.or o.held with
  | some rows => .ok ((rows.head?.map Ledger.rowValue).getD .nothing)
  | none => .error (.missingFunction "fetchone")

end Handle

namespace Ledger

open Store (Connection)

/-- Creates the table unless it is there. -/
def createSchema (l : Ledger) (h : Handle) (c : Connection) : Connection × Except Fault Unit :=
  let (c, r) := h.execute c l.schemaStatement
  (c, r.map fun _ => ())

/-- Records a range; a range with the same first batch gets the new last batch. -/
def add (l : Ledger) (h : Handle) (c : Connection) (first last : Value) :
    Connection × Except Fault Unit :=
  let (c, r) := h.execute c (l.addStatement first last)
  (c, r.map fun _ => ())

/-- The range that begins with a batch. -/
def get? (l : Ledger) (h : Handle) (c : Connection) (first : Value) :
    Connection × Except Fault (Option Sequence) :=
  let (c, r) := h.execute c (l.getStatement first)
  (c, r.bind fun rows => (h.offer rows).fetchFirst.bind sequenceOf)

/-- All rows in their order. -/
def rows (l : Ledger) (c : Connection) : Connection × Except Fault (List Store.Row) :=
  Handle.connection.execute c l.listStatement

end Ledger

end BatchFrontier
