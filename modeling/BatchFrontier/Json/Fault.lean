import BatchFrontier.Text.Decimal

/-!
# Faults of JSON texts

What is wrong with a text that is not JSON, and where: the index of a character counts from zero,
its line and its column from one.
-/

namespace BatchFrontier.Json

/-- What is wrong with a text. -/
inductive Flaw where
  | value
  | comma
  | colon
  | propertyName
  | controlCharacter
  | unterminated
  | escape
  | unicodeEscape
  | extraData
  | byteOrderMark
  deriving DecidableEq, Repr

/-- The wording of a flaw. -/
def Flaw.wording : Flaw → String
  | .value => "Expecting value"
  | .comma => "Expecting ',' delimiter"
  | .colon => "Expecting ':' delimiter"
  | .propertyName => "Expecting property name enclosed in double quotes"
  | .controlCharacter => "Invalid control character at"
  | .unterminated => "Unterminated string starting at"
  | .escape => "Invalid \\escape"
  | .unicodeEscape => "Invalid \\uXXXX escape"
  | .extraData => "Extra data"
  | .byteOrderMark => "Unexpected UTF-8 BOM (decode using utf-8-sig)"

/-- A place in a text. -/
structure Place where
  line : Nat
  column : Nat
  index : Nat
  deriving DecidableEq, Repr

/-- The place of the character at an index. -/
def Place.ofIndex (cs : List Char) (index : Nat) : Place :=
  let before := cs.take index
  let last := before.reverse.takeWhile (· != '\n')
  ⟨before.count '\n' + 1, last.length + 1, index⟩

/-- A flaw at a place. -/
structure Fault where
  flaw : Flaw
  place : Place
  deriving DecidableEq, Repr

/-- The text of a fault. -/
def Fault.message (f : Fault) : String :=
  f.flaw.wording ++ ": line " ++ Text.natural f.place.line ++ " column " ++
    Text.natural f.place.column ++ " (char " ++ Text.natural f.place.index ++ ")"

example : Place.ofIndex ['a', '\n', 'b', 'c'] 3 = ⟨2, 2, 3⟩ := by decide

end BatchFrontier.Json
