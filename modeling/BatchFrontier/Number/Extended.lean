import BatchFrontier.Number.Binary64

/-!
# Extended floating-point numbers

Positive numbers of 64 significant bits, in which intermediate results are kept before they become
numbers of 53 bits. Every operation rounds to the nearest number and to the even one of two. Their
exponents have no bounds, because the results that are needed are far from them.
-/

namespace BatchFrontier

/-- The number `mantissa * 2 ^ exponent`. -/
structure Extended where
  mantissa : Nat
  exponent : Int
  deriving DecidableEq, Repr

namespace Extended

/-- The number nearest to a positive quotient. -/
def ofRatio (num den : Nat) : Extended :=
  let e := Binary64.tightExponent 64 num den
  let m := Binary64.roundDiv (Binary64.overPower num den e).1 (Binary64.overPower num den e).2
  if m = 2 ^ 64 then ⟨2 ^ 63, e + 1⟩ else ⟨m, e⟩

/-- The number nearest to a positive natural number. -/
def ofNat (n : Nat) : Extended := ofRatio n 1

/-- A number multiplied by two to a power. -/
def shift (x : Extended) (e : Int) : Extended := ⟨x.mantissa, x.exponent + e⟩

/-- The product of two numbers. -/
def mul (x y : Extended) : Extended :=
  (ofNat (x.mantissa * y.mantissa)).shift (x.exponent + y.exponent)

/-- The quotient of two numbers. -/
def div (x y : Extended) : Extended :=
  (ofRatio x.mantissa y.mantissa).shift (x.exponent - y.exponent)

/-- A product of powers of a number: those repeated squares of the number count that stand for the
bits of the power. -/
def powerTimes (product square : Extended) (power : Nat) : Extended :=
  let product := if power % 2 = 1 then product.mul square else product
  if power / 2 = 0 then product else powerTimes product (square.mul square) (power / 2)
termination_by power

/-- Ten to a power, by repeated squares. Up to the 27th power this is exact. -/
def powerOfTen (power : Nat) : Extended := powerTimes (ofNat 1) (ofNat 10) power

/-- The nearest number of 53 bits, or its negative. -/
def toBinary64 (negative : Bool) (x : Extended) : Binary64 :=
  let p := Binary64.powerOfTwo x.exponent
  Binary64.ofRatio negative (x.mantissa * p.1) p.2

example : powerOfTen 27 = ofNat (10 ^ 27) := by decide +kernel
example : toBinary64 false ((ofNat 3).div (powerOfTen 1)) = Binary64.ofDecimal false 3 (-1) := by
  decide +kernel

end Extended

end BatchFrontier
