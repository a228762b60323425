import BatchFrontier.Conversion

/-!
# Writing JSON

A value is written on one line without blanks, or over several lines with an indentation of two. The
names of an object are in order, and everything outside ASCII is escaped.
-/

namespace BatchFrontier.Json

/-- The escape of a code of sixteen bits. -/
def unitEscape (n : Nat) : List Char := '\\' :: 'u' :: Text.hexOfWidth 4 n

/-- The escape of a code by its number, which takes two units if it has more than sixteen bits. -/
def numberEscape (n : Nat) : List Char :=
  if n < 0x10000 then unitEscape n
  else unitEscape (0xD800 + (n - 0x10000) / 0x400) ++ unitEscape (0xDC00 + (n - 0x10000) % 0x400)

/-- How a character is written in a text. -/
def escapedChar (c : Char) : List Char :=
  match c with
  | '"' => ['\\', '"']
  | '\\' => ['\\', '\\']
  | '\n' => ['\\', 'n']
  | '\r' => ['\\', 'r']
  | '\t' => ['\\', 't']
  | '\x08' => ['\\', 'b']
  | '\x0c' => ['\\', 'f']
  | c => if 0x20 ≤ c.toNat ∧ c.toNat < 0x7F then [c] else numberEscape c.toNat

/-- How a code is written in a text. -/
def escapedCode : Code → List Char
  | .char c => escapedChar c
  | .half n => numberEscape (Code.half n).toNat

/-- A text between marks. -/
def quoted (t : Text) : String :=
  String.ofList ('"' :: t.codes.flatMap escapedCode ++ ['"'])

/-- A floating-point number, with words for those that are not finite. -/
def realText : Binary64 → String
  | .infinite s => if s then "-Infinity" else "Infinity"
  | .undefined => "NaN"
  | x => x.shown

/-- How the parts of arrays and objects are set. -/
structure Layout where
  /-- Whether every item stands on a line of its own. -/
  isSpread : Bool
  deriving DecidableEq, Repr

namespace Layout

/-- On one line, without blanks. -/
def compact : Layout := ⟨false⟩

/-- Over several lines. -/
def pretty : Layout := ⟨true⟩

/-- A new line at a depth, or nothing. -/
def newline (l : Layout) (depth : Nat) : String :=
  if l.isSpread then "\n" ++ String.ofList (List.replicate (2 * depth) ' ') else ""

/-- What stands between a name and its value. -/
def colon (l : Layout) : String := if l.isSpread then ": " else ":"

/-- Parts between two brackets. -/
def enclose (l : Layout) (first last : Char) (depth : Nat) (parts : List String) : String :=
  if parts = [] then String.ofList [first, last]
  else
    String.singleton first ++ l.newline (depth + 1) ++
      String.intercalate ("," ++ l.newline (depth + 1)) parts ++ l.newline depth ++
      String.singleton last

end Layout

/-- Whether the name of a field comes before another or is the same, code by code. -/
def nameLe (a b : Text × String) : Bool :=
  !(b.1.codes.map Code.toNat).lex (a.1.codes.map Code.toNat) Nat.blt

mutual

/-- A value as text, at a depth of nesting. -/
def writeAt (l : Layout) (depth : Nat) : Value → String
  | .nothing => "null"
  | .truth b => if b then "true" else "false"
  | .integer n => Text.integer n
  | .real x => realText x
  | .text t => quoted t
  | .bytes bs => Text.quoteBytes bs
  | .list items | .tuple items => l.enclose '[' ']' depth (writeItems l (depth + 1) items)
  | .record fields =>
    let parts := (writeFields l (depth + 1) fields).mergeSort nameLe
    l.enclose '\x7b' '\x7d' depth (parts.map fun p => quoted p.1 ++ l.colon ++ p.2)
  | .foreign _ spoken _ => quoted spoken

/-- The items of an array as texts. -/
def writeItems (l : Layout) (depth : Nat) : List Value → List String
  | [] => []
  | v :: rest => writeAt l depth v :: writeItems l depth rest

/-- The names of the fields of an object, with their values as texts. -/
def writeFields (l : Layout) (depth : Nat) : List (Text × Value) → List (Text × String)
  | [] => []
  | (name, v) :: rest => (name, writeAt l depth v) :: writeFields l depth rest

end

/-- A value as text. -/
def write (l : Layout) (v : Value) : String := writeAt l 0 v

/-- A value as text, unless an integer in it has more digits than are written. -/
def print (l : Layout) (v : Value) : Except BatchFrontier.Fault String :=
  if v.isWritable then .ok (write l v) else .error .unwrittenInteger

end BatchFrontier.Json
