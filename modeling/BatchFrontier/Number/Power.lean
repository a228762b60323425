/-!
# Powers

A power of a number is the one that the core library defines, in every module, also where another
library brings powers of its own. So a statement about a bound is about the very bound that is
checked.
-/

namespace BatchFrontier

/-- The powers of the core library come before all others. -/
instance (priority := high) corePow {α : Type} [NatPow α] : Pow α Nat := instPowNat

attribute [default_instance high] corePow

end BatchFrontier
