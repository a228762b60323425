import BatchFrontier.Text.Blank

/-!
# Integers in decimal text

Writing uses the ten ASCII digits. Reading also takes the digits of every other script that Unicode
counts as decimal, single underscores between digits, a sign, and blanks at both ends. The
information separators are not among the blanks skipped here.
-/

namespace BatchFrontier.Text

/-- The code points of the digit zero in each script; the nine other digits follow their zero. -/
def zeroDigits : List Nat :=
  [0x30, 0x660, 0x6F0, 0x7C0, 0x966, 0x9E6, 0xA66, 0xAE6, 0xB66, 0xBE6, 0xC66, 0xCE6, 0xD66,
   0xDE6, 0xE50, 0xED0, 0xF20, 0x1040, 0x1090, 0x17E0, 0x1810, 0x1946, 0x19D0, 0x1A80, 0x1A90,
   0x1B50, 0x1BB0, 0x1C40, 0x1C50, 0xA620, 0xA8D0, 0xA900, 0xA9D0, 0xA9F0, 0xAA50, 0xABF0, 0xFF10,
   0x104A0, 0x10D30, 0x11066, 0x110F0, 0x11136, 0x111D0, 0x112F0, 0x11450, 0x114D0, 0x11650,
   0x116C0, 0x11730, 0x118E0, 0x11950, 0x11C50, 0x11D50, 0x11DA0, 0x16A60, 0x16AC0, 0x16B50,
   0x1D7CE, 0x1D7D8, 0x1D7E2, 0x1D7EC, 0x1D7F6, 0x1E140, 0x1E2F0, 0x1E950, 0x1FBF0]

/-- The value of a decimal digit of any script. -/
def digitValue? (c : Char) : Option Nat :=
  if c.toNat < 128 then
    if 48 ≤ c.toNat ∧ c.toNat ≤ 57 then some (c.toNat - 48) else none
  else
    (zeroDigits.find? fun z => decide (z ≤ c.toNat) && decide (c.toNat < z + 10)).map
      (c.toNat - ·)

/-- Whether a character is a decimal digit. -/
def isDigit (c : Char) : Bool := (digitValue? c).isSome

/-- The blanks that may surround the text of an integer. -/
def isIntegerBlank (c : Char) : Bool :=
  isPlainBlank c || (decide (128 ≤ c.toNat) && isBlank c)

/-- Why a text is not read as an integer. -/
inductive IntegerDefect where
  /-- The text does not have the form of an integer. -/
  | malformed
  /-- The text has more digits than are read. -/
  | tooLong (digits : Nat)
  deriving DecidableEq, Repr

/-- The longest run of digits that is read. -/
def maxIntegerDigits : Nat := 4300

/-- Whether underscores occur only singly, and each between two other characters. -/
def separatesOnly : List Char → Bool
  | [] => false
  | ['_'] => false
  | [_] => true
  | '_' :: _ :: _ => false
  | _ :: '_' :: rest => separatesOnly rest
  | _ :: next :: rest => separatesOnly (next :: rest)

/-- The number that a run of digits stands for; other characters are skipped. -/
def digitsValue (cs : List Char) : Nat :=
  (cs.filterMap digitValue?).foldl (fun n d => 10 * n + d) 0

/-- Reads an unsigned number that fills the whole text. -/
def readMagnitude (cs : List Char) : Except IntegerDefect Nat :=
  let run := cs.takeWhile fun c => isDigit c || c == '_'
  let digits := run.countP isDigit
  if separatesOnly run = false then .error .malformed
  else if maxIntegerDigits < digits then .error (.tooLong digits)
  else if run.length = cs.length then .ok (digitsValue run)
  else .error .malformed

/-- Reads an integer: blanks, a sign, digits, blanks. -/
def readInteger (cs : List Char) : Except IntegerDefect Int :=
  match trimWhere isIntegerBlank cs with
  | '-' :: rest => (readMagnitude rest).map fun n => -(n : Int)
  | '+' :: rest => (readMagnitude rest).map fun n => (n : Int)
  | body => (readMagnitude body).map fun n => (n : Int)

/-- The decimal text of a natural number. -/
def natural (n : Nat) : String := String.ofList (Nat.toDigits 10 n)

/-- The decimal text of an integer. -/
def integer : Int → String
  | .ofNat n => natural n
  | .negSucc n => "-" ++ natural (n + 1)

example : readInteger "-1_000".toList = .ok (-1000) := by rfl
example : readInteger "1__0".toList = .error .malformed := by rfl
example : integer (-120) = "-120" := by decide +kernel

end BatchFrontier.Text
