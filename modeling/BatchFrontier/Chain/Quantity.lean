import BatchFrontier.Conversion

/-!
# Quantities

Numbers in a node's answers are texts of hexadecimal digits with or without the mark `0x`, with a
sign, blanks at the ends and single underscores as decimal texts have them; numbers stand for
themselves.
-/

namespace BatchFrontier.Chain

open BatchFrontier.Text

/-- A decimal digit of any script as the ASCII digit of the same value. -/
def plainDigit (c : Char) : Char := (digitValue? c).elim c hexDigit

/-- Reads digits after an optional mark; an underscore may follow the mark. -/
def readDigits? (cs : List Char) : Option Nat :=
  let body := match cs with
    | '0' :: 'x' :: '_' :: rest | '0' :: 'X' :: '_' :: rest => rest
    | cs => Hex.dropMark cs
  if separatesOnly body = false then none
  else
    let digits := body.filter (· != '_')
    if digits.all fun c => (hexValue? c).isSome then
      some ((digits.filterMap hexValue?).foldl (fun n d => 16 * n + d) 0)
    else none

/-- Reads a signed quantity. -/
def readQuantity? (cs : List Char) : Option Int :=
  match (trimWhere isIntegerBlank cs).map plainDigit with
  | '-' :: rest => (readDigits? rest).map fun n => -(n : Int)
  | '+' :: rest => (readDigits? rest).map fun n => (n : Int)
  | body => (readDigits? body).map fun n => (n : Int)

/-- The number that a value of hexadecimal digits stands for. -/
def numberOf (v : Value) (cs : List Char) : Except Fault Value :=
  match readQuantity? cs with
  | some n => .ok (.integer n)
  | none => .error (.quantityText v)

/-- The number in an answer. -/
def quantity (v : Value) : Except Fault Value :=
  match v with
  | .text t => numberOf v t.chars
  | .bytes bs => numberOf v (Value.asciiText bs)
  | v => .ok v

example : readQuantity? " -0x_1F ".toList = some (-31) := by decide +kernel
example : readQuantity? "0x".toList = none := by decide +kernel

end BatchFrontier.Chain
