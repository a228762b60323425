import BatchFrontier.Store.Fault

/-!
# Commands

The commands that the ledger gives to the database, read from their text. A text is cut into words
and marks and compared with the form of each command; the first word or mark that does not fit is
reported. Words of the forms count in either case, and a word that the grammar keeps for itself
cannot be a name.
-/

namespace BatchFrontier.Store

/-- A word or a mark of a command. -/
inductive Token where
  | word (s : String)
  | mark (c : Char)
  deriving DecidableEq, Repr

namespace Token

/-- Whether a character may stand in a word. -/
def isWordChar (c : Char) : Bool := c.isAlphanum || c == '_'

/-- The token as it is reported. -/
def text : Token → String
  | .word s => s
  | .mark c => String.singleton c

/-- Cuts a text into tokens; `word` holds the characters of the word begun, the last one first. -/
def scanFrom (word : List Char) : List Char → List Token
  | [] => finish word []
  | c :: cs =>
    if isWordChar c then scanFrom (c :: word) cs
    else if c = ' ' then finish word (scanFrom [] cs)
    else finish word (.mark c :: scanFrom [] cs)
where
  /-- The word begun, if there is one, before other tokens. -/
  finish (word : List Char) (rest : List Token) : List Token :=
    if word = [] then rest else .word (String.ofList word.reverse) :: rest

/-- The tokens of a text. -/
def scan (s : String) : List Token := scanFrom [] s.toList

end Token

/-- The name of a table, with the name of its schema if it is given. -/
structure TableName where
  schema : Option String
  table : String
  deriving DecidableEq, Repr

namespace TableName

/-- The name as it is written. -/
def text (n : TableName) : String :=
  match n.schema with
  | some s => s ++ "." ++ n.table
  | none => n.table

end TableName

/-- A name in lower case. -/
def lowered (s : String) : String := String.ofList (s.toList.map Char.toLower)

/-- The words that cannot be names. -/
def reservedWords : List String :=
  ["add", "all", "alter", "and", "as", "autoincrement", "between", "case", "check", "collate",
   "commit", "constraint", "create", "default", "deferrable", "delete", "distinct", "drop", "else",
   "escape", "except", "exists", "foreign", "from", "group", "having", "in", "index", "insert",
   "intersect", "into", "is", "isnull", "join", "limit", "not", "nothing", "notnull", "null", "on",
   "or", "order", "primary", "references", "returning", "select", "set", "table", "then", "to",
   "transaction", "union", "unique", "update", "using", "values", "when", "where"]

/-- Whether a word cannot be a name. -/
def isReserved (s : String) : Bool := reservedWords.contains (lowered s)

/-- One place in the form of a command. -/
inductive Place where
  | word (s : String)
  | mark (c : Char)
  /-- The name of the table. -/
  | table
  deriving DecidableEq, Repr

/-- What a command does to the table it names. -/
inductive Verb where
  /-- Creates the table unless it is there. -/
  | create
  /-- Adds a row, or sets the second column of the row with the same first column. -/
  | upsert
  /-- Finds the row with a given first column. -/
  | find
  /-- Lists all rows, ordered by both columns. -/
  | list
  deriving DecidableEq, Repr

namespace Verb

/-- The places of a text without a table name. -/
def literally (s : String) : List Place :=
  (Token.scan s).map fun
    | .word s => .word s
    | .mark c => .mark c

/-- The form of a command. -/
def form : Verb → List Place
  | .create =>
    literally "CREATE TABLE IF NOT EXISTS" ++ [.table] ++
      literally "(from_batch_num BIGINT PRIMARY KEY, to_batch_num BIGINT NOT NULL)"
  | .upsert =>
    literally "INSERT INTO" ++ [.table] ++
      literally "(from_batch_num, to_batch_num) VALUES (?, ?)" ++
      literally "ON CONFLICT (from_batch_num)" ++
      literally "DO UPDATE SET to_batch_num = excluded.to_batch_num"
  | .find =>
    literally "SELECT from_batch_num, to_batch_num FROM" ++ [.table] ++
      literally "WHERE from_batch_num = ?"
  | .list =>
    literally "SELECT from_batch_num, to_batch_num FROM" ++ [.table] ++
      literally "ORDER BY from_batch_num, to_batch_num"

/-- The number of places for parameters. -/
def places (v : Verb) : Nat := v.form.countP (· == .mark '?')

/-- The verb of a command, by its first word and by whether it asks for an order. -/
def ofTokens (tokens : List Token) : Option Verb :=
  match tokens with
  | .word first :: _ =>
    match lowered first with
    | "create" => some .create
    | "insert" => some .upsert
    | "select" =>
      if tokens.any fun t => lowered t.text == "where" then some .find else some .list
    | _ => none
  | _ => none

end Verb

/-- A command on a table. -/
structure Command where
  verb : Verb
  table : TableName
  deriving DecidableEq, Repr

namespace Command

/-- A word as a name. -/
def nameOf (s : String) : Except Fault String :=
  if isReserved s then .error (.nearWord s) else .ok s

/-- Reads the name of a table from the front of some tokens. -/
def readTable : List Token → Except Fault (TableName × List Token)
  | .word s :: .mark '.' :: .word t :: rest => do
    let s ← nameOf s
    let t ← nameOf t
    pure (⟨some s, t⟩, rest)
  | .word s :: rest => do
    let s ← nameOf s
    pure (⟨none, s⟩, rest)
  | .mark c :: _ => .error (.nearWord (String.singleton c))
  | [] => .error (.nearWord "")

/-- The first token as it is reported. -/
def nearest : List Token → String
  | t :: _ => t.text
  | [] => ""

/-- Compares tokens with a form and finds the name of the table. -/
def fit : List Place → Option TableName → List Token → Except Fault (Option TableName)
  | [], found, [] => .ok found
  | [], _, t :: _ => .error (.nearWord t.text)
  | .table :: places, _, tokens => do
    let (name, rest) ← readTable tokens
    fit places (some name) rest
  | .word s :: places, found, tokens =>
    match tokens with
    | .word t :: rest =>
      if lowered s = lowered t then fit places found rest else .error (.nearWord t)
    | tokens => .error (.nearWord (nearest tokens))
  | .mark c :: places, found, tokens =>
    match tokens with
    | .mark d :: rest =>
      if c = d then fit places found rest else .error (.nearWord (String.singleton d))
    | tokens => .error (.nearWord (nearest tokens))

/-- Reads a command from its text. -/
def ofText (s : String) : Except Fault Command :=
  let tokens := Token.scan s
  match Verb.ofTokens tokens with
  | none => .error (.nearWord (nearest tokens))
  | some verb =>
    match fit verb.form none tokens with
    | .ok (some table) => .ok ⟨verb, table⟩
    | .ok none => .error (.nearWord "")
    | .error f => .error f

end Command

end BatchFrontier.Store
