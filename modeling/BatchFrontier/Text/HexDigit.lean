/-!
# Hexadecimal digits

The sixteen digits in lower case, and the value of a digit in either case. Only ASCII characters
are digits here.
-/

namespace BatchFrontier.Text

/-- The digits in order of their values. -/
def hexDigits : List Char :=
  ['0', '1', '2', '3', '4', '5', '6', '7', '8', '9', 'a', 'b', 'c', 'd', 'e', 'f']

/-- The lower-case digit with a given value; values count modulo sixteen. -/
def hexDigit (n : Nat) : Char := (hexDigits[n % 16]?).getD '0'

/-- The value of a digit in either case. -/
def hexValue? (c : Char) : Option Nat :=
  let n := c.toNat
  if 48 ≤ n ∧ n ≤ 57 then some (n - 48)
  else if 97 ≤ n ∧ n ≤ 102 then some (n - 87)
  else if 65 ≤ n ∧ n ≤ 70 then some (n - 55)
  else none

/-- Whether a character is a digit. -/
def isHexDigit (c : Char) : Bool := (hexValue? c).isSome

/-- The last `width` digits of a number, most significant first. -/
def hexOfWidth : Nat → Nat → List Char
  | 0, _ => []
  | width + 1, n => hexOfWidth width (n / 16) ++ [hexDigit n]

theorem length_hexOfWidth (width n : Nat) : (hexOfWidth width n).length = width := by
  induction width generalizing n with
  | zero => rfl
  | succ width ih => simp [hexOfWidth, ih]

theorem hexValue?_hexDigit (n : Nat) : hexValue? (hexDigit n) = some (n % 16) := by
  have h : ∀ m, m < 16 → hexValue? (hexDigit m) = some m := by decide
  have hd : hexDigit n = hexDigit (n % 16) := by simp [hexDigit]
  rw [hd, h (n % 16) (Nat.mod_lt n (by decide))]

end BatchFrontier.Text
