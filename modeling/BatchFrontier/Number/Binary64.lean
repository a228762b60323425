import BatchFrontier.Number.Power
import BatchFrontier.Text.Decimal

/-!
# Binary floating-point numbers

The numbers of the format with 53 significant bits and exponents from -1074 on. A finite number is
kept as a whole multiple of a power of two, so rounding and printing are exact integer arithmetic.
Rounding goes to the nearest number and to the even one of two.
-/

namespace BatchFrontier

/-- A floating-point number. -/
inductive Binary64 where
  /-- The number `mantissa * 2 ^ exponent`, or its negative. -/
  | finite (negative : Bool) (mantissa : Nat) (exponent : Int)
  /-- One of the two infinities. -/
  | infinite (negative : Bool)
  /-- The result of an operation that has none. -/
  | undefined
  deriving DecidableEq, Repr

namespace Binary64

/-- The quotient rounded to the nearest integer, a half to the even one. -/
def roundDiv (num den : Nat) : Nat :=
  let q := num / den
  let r := num % den
  if 2 * r > den ∨ (2 * r = den ∧ q % 2 = 1) then q + 1 else q

/-- Two to an integer power as a numerator and a denominator. -/
def powerOfTwo (e : Int) : Nat × Nat :=
  if e ≥ 0 then (2 ^ e.toNat, 1) else (1, 2 ^ (-e).toNat)

/-- A quotient over two to a power, as a numerator and a denominator. -/
def overPower (num den : Nat) (e : Int) : Nat × Nat :=
  (num * (powerOfTwo (-e)).1, den * (powerOfTwo (-e)).2)

/-- The exponent over which the whole part of a positive quotient has the given number of bits. -/
def tightExponent (bits num den : Nat) : Int :=
  let guess : Int := (Nat.log2 num : Int) - (Nat.log2 den : Int) - (bits : Int)
  if (overPower num den guess).1 / (overPower num den guess).2 ≥ 2 ^ bits then guess + 1 else guess

/-- The number nearest to a quotient of natural numbers; the denominator is positive. -/
def ofRatio (negative : Bool) (num den : Nat) : Binary64 :=
  if num = 0 then .finite negative 0 (-1074)
  else
    let e : Int := max (-1074) (tightExponent 53 num den)
    let m := roundDiv (overPower num den e).1 (overPower num den e).2
    let (m, e) := if m = 2 ^ 53 then (2 ^ 52, e + 1) else (m, e)
    if e > 971 then .infinite negative else .finite negative m e

/-- The number nearest to `digits * 10 ^ exponent`. -/
def ofDecimal (negative : Bool) (digits : Nat) (exponent : Int) : Binary64 :=
  let size : Int := exponent + (Nat.toDigits 10 digits).length
  if digits = 0 ∨ size < -330 then .finite negative 0 (-1074)
  else if size > 310 then .infinite negative
  else if exponent ≥ 0 then ofRatio negative (digits * 10 ^ exponent.toNat) 1
  else ofRatio negative digits (10 ^ (-exponent).toNat)

/-- A number multiplied by a positive quotient. -/
def scale (x : Binary64) (num den : Nat) : Binary64 :=
  match x with
  | .finite s m e => ofRatio s (m * (powerOfTwo e).1 * num) ((powerOfTwo e).2 * den)
  | x => x

/-- The number nearest to an integer. -/
def ofInt (n : Int) : Binary64 := ofDecimal (decide (n < 0)) n.natAbs 0

/-- The mantissa with its sign. -/
def signed (negative : Bool) (m : Nat) : Int := if negative then -(m : Int) else m

/-- The difference of two numbers. -/
def sub : Binary64 → Binary64 → Binary64
  | .finite s m e, .finite t n f =>
    let low := min e f
    let d := signed s m * 2 ^ (e - low).toNat - signed t n * 2 ^ (f - low).toNat
    if d = 0 then .finite (s && !t && decide (m = 0)) 0 (-1074)
    else
      let p := powerOfTwo low
      ofRatio (decide (d < 0)) (d.natAbs * p.1) p.2
  | .infinite s, .infinite t => if s = t then .undefined else .infinite s
  | .undefined, _ => .undefined
  | _, .undefined => .undefined
  | .infinite s, .finite .. => .infinite s
  | .finite .., .infinite t => .infinite (!t)

/-- The integer between zero and the number that is nearest to the number. -/
def truncate (negative : Bool) (mantissa : Nat) (exponent : Int) : Int :=
  let p := powerOfTwo exponent
  signed negative (mantissa * p.1 / p.2)

/-- Whether the number equals an integer. -/
def equalsInt (x : Binary64) (n : Int) : Bool :=
  match x with
  | .finite s m e =>
    let p := powerOfTwo e
    decide (signed s m * p.1 = n * p.2)
  | _ => false

/-- Whether two numbers are equal; both zeros are, and no undefined number is. -/
def equals : Binary64 → Binary64 → Bool
  | .finite s m e, .finite t n f => (m == 0 && n == 0) || (s == t && m == n && e == f)
  | .infinite s, .infinite t => s == t
  | _, _ => false

/-- Whether a number is neither positive nor undefined. -/
def isNonpositive : Binary64 → Bool
  | .finite s m _ => s || m == 0
  | .infinite s => s
  | .undefined => false

/-- The text with two digits after the point, a half to the even digit. -/
def twoPlaces : Binary64 → String
  | .finite s m e =>
    let p := powerOfTwo e
    let cents := roundDiv (m * p.1 * 100) p.2
    let places := cents % 100
    let low := if places < 10 then "0" ++ Text.natural places else Text.natural places
    (if s then "-" else "") ++ Text.natural (cents / 100) ++ "." ++ low
  | .infinite s => if s then "-inf" else "inf"
  | .undefined => "nan"

/-- The decimal exponent of a positive number: the power of ten of its first digit. -/
def decimalExponent (m : Nat) (e : Int) : Int :=
  let p := powerOfTwo e
  let num := m * p.1
  let whole := num / p.2
  if whole > 0 then ((Nat.toDigits 10 whole).length : Int) - 1
  else
    -- the reciprocal lies above one; its digits count the zeros after the point
    let size := (Nat.toDigits 10 (p.2 / num)).length
    if p.2 ≤ num * 10 ^ (size - 1) then -((size : Int) - 1) else -(size : Int)

/-- The two neighbours of a positive number on the grid of multiples of `10 ^ unit`. -/
def gridBelow (m : Nat) (e unit : Int) : Nat :=
  let p := powerOfTwo e
  if unit ≥ 0 then m * p.1 / (p.2 * 10 ^ unit.toNat)
  else m * p.1 * 10 ^ (-unit).toNat / p.2

/-- Whether the number lies nearer to the upper neighbour on the grid, or midway with the lower
neighbour odd. -/
def nearerAbove (m : Nat) (e unit : Int) (below : Nat) : Bool :=
  let p := powerOfTwo e
  let (num, den) :=
    if unit ≥ 0 then (m * p.1, p.2 * 10 ^ unit.toNat) else (m * p.1 * 10 ^ (-unit).toNat, p.2)
  let twice := 2 * num
  let middle := (2 * below + 1) * den
  decide (twice > middle) || (decide (twice = middle) && decide (below % 2 = 1))

/-- The digits of the first grid, from `count` digits on, with a point that reads back as the
number; of two such points the nearer. -/
def digitsFrom (m : Nat) (e top : Int) : Nat → Nat → Nat × Int
  | 0, _ => (m, e)
  | fuel + 1, count =>
    let unit := top - (count : Int) + 1
    let below := gridBelow m e unit
    let here := Binary64.finite false m e
    let low := decide (ofDecimal false below unit = here)
    let high := decide (ofDecimal false (below + 1) unit = here)
    if low && high then (if nearerAbove m e unit below then below + 1 else below, unit)
    else if low then (below, unit)
    else if high then (below + 1, unit)
    else digitsFrom m e top fuel (count + 1)

/-- The fewest decimal digits that read back as a positive number, and their power of ten. -/
def shortest (m : Nat) (e : Int) : Nat × Int := digitsFrom m e (decimalExponent m e) 17 1

/-- The text of the fewest digits that read back. Numbers from 0.0001 up to 10^16 are written
positionally and always with a point, all others with an exponent of at least two digits. -/
def shown : Binary64 → String
  | .infinite s => if s then "-inf" else "inf"
  | .undefined => "nan"
  | .finite s m e =>
    let sign := if s then "-" else ""
    if m = 0 then sign ++ "0.0"
    else
      let (n, unit) := shortest m e
      let all := Nat.toDigits 10 n
      let digits := (all.reverse.dropWhile (· == '0')).reverse
      let point : Int := (all.length : Int) + unit
      if -4 < point ∧ point ≤ 16 then
        let body :=
          if point ≤ 0 then
            "0." ++ String.ofList (List.replicate (-point).toNat '0' ++ digits)
          else if digits.length ≤ point.toNat then
            String.ofList (digits ++ List.replicate (point.toNat - digits.length) '0') ++ ".0"
          else
            String.ofList (digits.take point.toNat) ++ "." ++
              String.ofList (digits.drop point.toNat)
        sign ++ body
      else
        let head := String.ofList (digits.take 1)
        let tail := if digits.length ≤ 1 then "" else "." ++ String.ofList (digits.drop 1)
        let power := point - 1
        let size := Text.natural power.natAbs
        sign ++ head ++ tail ++ "e" ++ (if power < 0 then "-" else "+") ++
          (if power.natAbs < 10 then "0" ++ size else size)

example : twoPlaces (ofDecimal false 125 (-3)) = "0.12" := by decide +kernel
example : shown (ofDecimal false 3 (-1)) = "0.3" := by decide +kernel
example : shown (ofDecimal true 5 (-324)) = "-5e-324" := by decide +kernel
example : shown (ofInt 10000000000000000) = "1e+16" := by decide +kernel

end Binary64

end BatchFrontier
