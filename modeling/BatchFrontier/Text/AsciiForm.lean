import BatchFrontier.Text.Code

/-!
# The size of names in ASCII

Every name has a form in ASCII. It begins with the characters of the name that are ASCII, with a
hyphen behind them if there are any. For each of the others, in the order of their numbers, follows
a distance that tells which character stands where, in as few digits to the base 36 as its size
asks for. Where a distance ends depends on a bias that follows the sizes of the distances before.
Only the size of the form is told here.
-/

namespace BatchFrontier.Text.AsciiForm

/-- The base of the digits. -/
def base : Nat := 36

/-- The digits below this value end a distance, if they stand at a place under a bias. -/
def threshold (place bias : Nat) : Nat := min 26 (max 1 (place - bias))

theorem threshold_pos (place bias : Nat) : 0 < threshold place bias := by
  unfold threshold
  omega

/-- The number of digits of a distance from a place on. -/
def digitCount (bias place distance : Nat) : Nat :=
  let t := threshold place bias
  if distance < t then 1 else 1 + digitCount bias (place + base) ((distance - t) / (base - t))
termination_by distance
decreasing_by
  have := threshold_pos place bias
  exact Nat.lt_of_le_of_lt (Nat.div_le_self _ _) (by omega)

/-- The bias that a damped distance asks for. -/
def biasFor (distance bias : Nat) : Nat :=
  if 455 < distance then biasFor (distance / 35) (bias + base)
  else bias + base * distance / (distance + 38)
termination_by distance
decreasing_by omega

/-- The bias after a distance, with the number of characters that are told by then. The first
distance is damped more than the others. -/
def nextBias (distance count : Nat) (isFirst : Bool) : Nat :=
  let damped := if isFirst then distance / 700 else distance / 2
  biasFor (damped + damped / count) 0

/-- How far a form has come. -/
structure Progress where
  distance : Nat
  bias : Nat
  /-- The number of characters that are told. -/
  told : Nat
  isFirst : Bool
  size : Nat
  deriving Repr

/-- The progress with one character of the name when the characters with a number are told. -/
def Progress.pass (number : Nat) (p : Progress) (c : Nat) : Progress :=
  if c < number then { p with distance := p.distance + 1 }
  else if c = number then
    { distance := 0
      bias := nextBias p.distance (p.told + 1) p.isFirst
      told := p.told + 1
      isFirst := false
      size := p.size + digitCount p.bias base p.distance }
  else p

/-- The progress through a name whose other characters have some numbers in ascending order; all
characters below `from` are told. -/
def Progress.tell (name : List Nat) : Nat → List Nat → Progress → Progress
  | _, [], p => p
  | start, number :: rest, p =>
    let reached := { p with distance := p.distance + (number - start) * (p.told + 1) }
    let passed := name.foldl (Progress.pass number) reached
    tell name (number + 1) rest { passed with distance := passed.distance + 1 }

/-- The size of the form of a name, whose characters are given by their numbers. -/
def size (name : List Nat) : Nat :=
  let plain := (name.filter (· < 128)).length
  let others := (name.filter (128 ≤ ·)).eraseDups.mergeSort
  let front := if plain = 0 then 0 else plain + 1
  (Progress.tell name 128 others ⟨0, 72, plain, true, front⟩).size

end BatchFrontier.Text.AsciiForm
