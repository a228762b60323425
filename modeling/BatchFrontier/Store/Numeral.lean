import BatchFrontier.Number.Extended
import BatchFrontier.Text.Blank

/-!
# Numerals

Decimal numbers as a database reads them from text. About 19 digits count, and the number is
computed from them in one multiplication or division by a power of ten of 64 bits. So the result
lies near the number that the text names, and is not always the nearest one.
-/

namespace BatchFrontier.Store

/-- A decimal number taken apart: its sign, its digits before and after the point and its exponent.
Without a point and without an exponent it is a whole number. -/
structure Numeral where
  negative : Bool
  whole : List Char
  fraction : List Char
  exponent : Option Int
  deriving DecidableEq, Repr

namespace Numeral

/-- The blanks that may stand around a number. -/
def isSpace (c : Char) : Bool := c == ' ' || (decide (9 ≤ c.toNat) && decide (c.toNat ≤ 13))

/-- Whether a character is one of the ten ASCII digits. -/
def isDigit (c : Char) : Bool := decide (48 ≤ c.toNat) && decide (c.toNat ≤ 57)

/-- The number that an ASCII digit stands for. -/
def digitValue (c : Char) : Nat := c.toNat - 48

/-- The number that ASCII digits stand for. -/
def digitsValue (cs : List Char) : Nat := cs.foldl (fun n c => 10 * n + digitValue c) 0

/-- A sign and the text after it. -/
def takeSign : List Char → Bool × List Char
  | '-' :: rest => (true, rest)
  | '+' :: rest => (false, rest)
  | cs => (false, cs)

/-- The exponent that digits stand for. After ten thousand no more digits count. -/
def exponentValue (negative : Bool) (cs : List Char) : Int :=
  let n := cs.foldl (fun n c => if n < 10000 then 10 * n + digitValue c else 10000) 0
  if negative then -(n : Int) else n

/-- Reads an exponent that fills the text, or no exponent from an empty text. -/
def readExponent? : List Char → Option (Option Int)
  | [] => some none
  | c :: rest =>
    if c = 'e' ∨ c = 'E' then
      let (negative, digits) := takeSign rest
      if digits ≠ [] ∧ digits.all isDigit then some (some (exponentValue negative digits))
      else none
    else none

/-- Reads a text that looks like a number. -/
def read? (cs : List Char) : Option Numeral :=
  let (negative, body) := takeSign (Text.trimWhere isSpace cs)
  let whole := body.takeWhile isDigit
  let rest := body.drop whole.length
  let (fraction, rest, hasPoint) := match rest with
    | '.' :: rest => (rest.takeWhile isDigit, rest.dropWhile isDigit, true)
    | rest => ([], rest, false)
  if whole = [] ∧ fraction = [] then none
  else
    match readExponent? rest with
    | none => none
    | some none => some ⟨negative, whole, fraction, if hasPoint then some 0 else none⟩
    | some (some e) => some ⟨negative, whole, fraction, some e⟩

/-- Whether a number is written without a point and without an exponent. -/
def isWhole (n : Numeral) : Bool := n.exponent.isNone

/-- The number before the point. -/
def wholeValue (n : Numeral) : Int :=
  let size := digitsValue n.whole
  if n.negative then -(size : Int) else size

/-- The bound from which on no more digits count. -/
def digitBound : Nat := (2 ^ 63 - 10) / 10

/-- The digits that count, as a number, and its power of ten: digits before the point that do not
count raise the power, and digits after the point that count lower it. -/
def significand (n : Numeral) : Nat × Int :=
  let whole := n.whole.foldl (fun (s : Nat × Int) c =>
    if s.1 < digitBound then (10 * s.1 + digitValue c, s.2) else (s.1, s.2 + 1)) (0, 0)
  n.fraction.foldl (fun s c =>
    if s.1 < digitBound then (10 * s.1 + digitValue c, s.2 - 1) else s) whole

/-- Moves a power of ten into a number as far as 64 bits allow. -/
def raise (s : Nat) : Nat → Nat × Nat
  | 0 => (s, 0)
  | power + 1 => if s ≥ (2 ^ 63 - 1) / 10 then (s, power + 1) else raise (10 * s) power

/-- Cancels a power of ten against the zeros at the end of a number. -/
def lower (s : Nat) : Nat → Nat × Nat
  | 0 => (s, 0)
  | power + 1 => if s % 10 ≠ 0 then (s, power + 1) else lower (s / 10) power

/-- The largest power of ten that is applied in one step. -/
def largeTen : Nat × Nat :=
  match Binary64.ofDecimal false 1 308 with
  | .finite _ m e => (m * (Binary64.powerOfTwo e).1, (Binary64.powerOfTwo e).2)
  | _ => (1, 1)

/-- A positive number multiplied by a power of ten. -/
def timesTen (negative : Bool) (s power : Nat) : Binary64 :=
  let x := Extended.ofNat s
  if power ≥ 342 then .infinite negative
  else if power > 307 then
    ((x.mul (.powerOfTen (power - 308))).toBinary64 negative).scale largeTen.1 largeTen.2
  else (x.mul (.powerOfTen power)).toBinary64 negative

/-- A positive number divided by a power of ten. -/
def overTen (negative : Bool) (s power : Nat) : Binary64 :=
  let x := Extended.ofNat s
  if power ≥ 342 then .finite negative 0 (-1074)
  else if power > 307 then
    ((x.div (.powerOfTen (power - 308))).toBinary64 negative).scale largeTen.2 largeTen.1
  else (x.div (.powerOfTen power)).toBinary64 negative

/-- The number as a floating-point number. -/
def toBinary64 (n : Numeral) : Binary64 :=
  let (s, shift) := n.significand
  let power := n.exponent.getD 0 + shift
  if s = 0 then .finite n.negative 0 (-1074)
  else
    let (s, left) := if power < 0 then lower s power.natAbs else raise s power.natAbs
    if left = 0 then Binary64.ofRatio n.negative s 1
    else if power < 0 then overTen n.negative s left
    else timesTen n.negative s left

end Numeral

end BatchFrontier.Store
