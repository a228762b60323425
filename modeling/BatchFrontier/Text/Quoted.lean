import BatchFrontier.Text.Code
import BatchFrontier.Text.HexDigit
import BatchFrontier.Text.Printable

/-!
# Quoted texts

A quoted text stands between two equal marks. The mark is the apostrophe, unless the text holds an
apostrophe and no quotation mark. The mark itself, the backslash, the common line controls, every
unprintable character and every half of one are written as escapes. Byte strings are quoted in the
same way, with a `b` in front and every byte outside the visible ASCII characters as an escape.
-/

namespace BatchFrontier.Text

/-- The mark that encloses a text. -/
def quoteMark (cs : List Char) : Char :=
  if cs.contains '\'' && !cs.contains '"' then '"' else '\''

/-- The escape of a character by its code point, in the shortest of three widths. -/
def codeEscape (n : Nat) : List Char :=
  if n < 0x100 then '\\' :: 'x' :: hexOfWidth 2 n
  else if n < 0x10000 then '\\' :: 'u' :: hexOfWidth 4 n
  else '\\' :: 'U' :: hexOfWidth 8 n

/-- How one character is written between two marks. -/
def quotedChar (mark c : Char) : List Char :=
  if c = mark ∨ c = '\\' then ['\\', c]
  else if c = '\n' then ['\\', 'n']
  else if c = '\r' then ['\\', 'r']
  else if c = '\t' then ['\\', 't']
  else if isPrintable c then [c]
  else codeEscape c.toNat

/-- How one code is written between two marks. -/
def quotedCode (mark : Char) : Code → List Char
  | .char c => quotedChar mark c
  | .half n => codeEscape (Code.half n).toNat

/-- The characters of a text between marks. -/
def quotedChars (t : Text) : List Char :=
  let mark := quoteMark t.chars
  mark :: t.codes.flatMap (quotedCode mark) ++ [mark]

/-- A text between marks. -/
def quote (t : Text) : String := String.ofList (quotedChars t)

/-- A text as it is written to a terminal: halves of characters stand as their escapes. -/
def visible (t : Text) : String :=
  String.ofList (t.codes.flatMap fun
    | .char c => [c]
    | .half n => codeEscape (Code.half n).toNat)

/-- How one byte is written between two marks. -/
def quotedByte (mark : Char) (b : UInt8) : List Char :=
  let c := Char.ofNat b.toNat
  if c = mark ∨ c = '\\' then ['\\', c]
  else if c = '\n' then ['\\', 'n']
  else if c = '\r' then ['\\', 'r']
  else if c = '\t' then ['\\', 't']
  else if 32 ≤ b.toNat ∧ b.toNat < 127 then [c]
  else codeEscape b.toNat

/-- A byte string between marks, after the letter `b`. -/
def quoteBytes (bs : List UInt8) : String :=
  let mark := quoteMark (bs.map fun b => Char.ofNat b.toNat)
  String.ofList ('b' :: mark :: bs.flatMap (quotedByte mark) ++ [mark])

example : quote "it's" = "\"it's\"" := by decide +kernel
example : quote "a\nb\u200b" = "'a\\nb\\u200b'" := by decide +kernel
example : quote ⟨[.half 0x7FF]⟩ = "'\\udfff'" := by decide +kernel
example : quoteBytes [5, 0x41] = "b'\\x05A'" := by decide +kernel

end BatchFrontier.Text
