import BatchFrontier.Fault

/-!
# Clocks

A clock gives one reading after the other, in seconds; the last reading repeats. The time between
two readings is exact if both are whole, and is shown as a floating-point number.
-/

namespace BatchFrontier

/-- A reading of a clock. -/
inductive Reading where
  | whole (seconds : Int)
  | real (seconds : Binary64)
  deriving DecidableEq, Repr

namespace Reading

/-- A reading as a floating-point number, unless it is out of their range. -/
def toReal : Reading → Except Fault Binary64
  | .whole n =>
    match Binary64.ofInt n with
    | .infinite _ => .error .realOfInteger
    | x => .ok x
  | .real x => .ok x

/-- The time from one reading to a later one. -/
def elapsed (start stop : Reading) : Except Fault Binary64 :=
  match start, stop with
  | .whole m, .whole n => (Reading.whole (n - m)).toReal
  | start, stop => do
    let stop ← stop.toReal
    let start ← start.toReal
    pure (stop.sub start)

end Reading

/-- A clock, by its readings to come. -/
structure Clock where
  readings : List Reading
  deriving DecidableEq, Repr

namespace Clock

/-- The reading with an index from zero. -/
def reading (c : Clock) (i : Nat) : Reading :=
  (c.readings[min i (c.readings.length - 1)]?).getD (.whole 0)

/-- The time between two readings in seconds, with two places. -/
def between (c : Clock) (i j : Nat) : Except Fault String :=
  ((c.reading i).elapsed (c.reading j)).map fun x => x.twoPlaces ++ "s"

end Clock

end BatchFrontier
