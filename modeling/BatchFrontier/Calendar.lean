import BatchFrontier.Fault

/-!
# Calendar dates

Seconds since the start of 1970 as a date and a time of day, in the Gregorian calendar and without
regard to leap seconds. Seconds that the system cannot count, or whose year it cannot count, have no
date.
-/

namespace BatchFrontier.Calendar

/-- A date and a time of day. -/
structure Moment where
  year : Int
  month : Nat
  day : Nat
  hour : Nat
  minute : Nat
  second : Nat
  deriving DecidableEq, Repr

/-- Year, month and day of a number of days since the start of 1970. Years are counted from March,
so that a leap day is the last day of its year, in cycles of 400 years with 146097 days each. -/
def dateOfDays (days : Int) : Int × Nat × Nat :=
  let shifted := days + 719468
  let cycle := shifted / 146097
  let dayOfCycle := (shifted % 146097).toNat
  let yearOfCycle :=
    (dayOfCycle - dayOfCycle / 1460 + dayOfCycle / 36524 - dayOfCycle / 146096) / 365
  let dayOfYear := dayOfCycle - (365 * yearOfCycle + yearOfCycle / 4 - yearOfCycle / 100)
  let monthFromMarch := (5 * dayOfYear + 2) / 153
  let day := dayOfYear - (153 * monthFromMarch + 2) / 5 + 1
  let month := if monthFromMarch < 10 then monthFromMarch + 3 else monthFromMarch - 9
  let year := (yearOfCycle : Int) + cycle * 400 + (if month ≤ 2 then 1 else 0)
  (year, month, day)

/-- The moment of a number of seconds. -/
def Moment.ofSeconds (seconds : Int) : Moment :=
  let (year, month, day) := dateOfDays (seconds / 86400)
  let rest := (seconds % 86400).toNat
  ⟨year, month, day, rest / 3600, rest % 3600 / 60, rest % 60⟩

/-- A number with at least two digits. -/
def twoDigits (n : Nat) : String := if n < 10 then "0" ++ Text.natural n else Text.natural n

/-- A moment as text, the largest unit first. -/
def Moment.text (m : Moment) : String :=
  Text.integer m.year ++ "-" ++ twoDigits m.month ++ "-" ++ twoDigits m.day ++ " " ++
    twoDigits m.hour ++ ":" ++ twoDigits m.minute ++ ":" ++ twoDigits m.second

/-- The years that the system counts, from 1900 on in 32 bits. -/
def isCountedYear (year : Int) : Bool :=
  decide (1900 - (2 : Int) ^ 31 ≤ year) && decide (year < 1900 + (2 : Int) ^ 31)

/-- The moment of a number of seconds as text, if it has one. -/
def momentText (seconds : Int) : Except Fault String :=
  let m := Moment.ofSeconds seconds
  if seconds < -(2 : Int) ^ 63 ∨ (2 : Int) ^ 63 ≤ seconds then .error .momentBeyond
  else if isCountedYear m.year = false then .error .farMoment
  else if (2 : Int) ^ 31 ≤ m.year then .error .yearBeyond
  else .ok m.text

example : (Moment.ofSeconds 0).text = "1970-01-01 00:00:00" := by decide +kernel
example : (Moment.ofSeconds 1709251199).text = "2024-02-29 23:59:59" := by decide +kernel

end BatchFrontier.Calendar
