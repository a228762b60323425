/-!
# Classes of characters

A class of characters is given by the ranges of code points that belong to it. The classes used by
the rest of the library are blanks, decimal digits and unprintable characters; each has a module of
its own that holds only its table.
-/

namespace BatchFrontier.Text

/-- A class of characters, as inclusive ranges of code points. -/
structure CharClass where
  /-- The first and the last code point of each range. -/
  ranges : List (Nat × Nat)

/-- Whether a character belongs to the class. -/
def CharClass.holds (k : CharClass) (c : Char) : Bool :=
  k.ranges.any fun r => decide (r.1 ≤ c.toNat) && decide (c.toNat ≤ r.2)

/-- A character belongs to a class exactly if one of the ranges encloses its code point. -/
theorem CharClass.holds_iff {k : CharClass} {c : Char} :
    k.holds c = true ↔ ∃ r ∈ k.ranges, r.1 ≤ c.toNat ∧ c.toNat ≤ r.2 := by
  simp [holds, List.any_eq_true]

/-- A sequence without the members with a property at its ends. -/
def trimWhere {α : Type} (p : α → Bool) (cs : List α) : List α :=
  ((cs.dropWhile p).reverse.dropWhile p).reverse

end BatchFrontier.Text
