import BatchFrontier.Conversion
import BatchFrontier.Json.Fault

/-!
# Tokens of JSON texts

A text is cut into marks, texts, numbers and words. A token that is not well formed ends the cutting
and carries its fault with it, so that a token that is not allowed where it stands is reported for
its place first.
-/

namespace BatchFrontier.Json

/-- What a token is. -/
inductive Shape where
  /-- A bracket, a brace, a comma or a colon. -/
  | mark (c : Char)
  | text (t : Text)
  /-- A number, or a word that stands for a value. -/
  | scalar (v : Value)
  /-- A text that does not end well; the flaw has a place of its own. -/
  | badText (flaw : Flaw) (index : Nat)
  /-- A number with more digits than are read. -/
  | longNumber (digits : Nat)
  /-- Anything else. -/
  | stray
  /-- The end of the text. -/
  | finish
  deriving Repr

/-- A token with the index of its first character. -/
structure Token where
  index : Nat
  shape : Shape
  deriving Repr

namespace Token

/-- The blanks between tokens. -/
def isBlank (c : Char) : Bool := c == ' ' || c == '\t' || c == '\n' || c == '\r'

/-- The character of an escape of one letter. -/
def escaped? : Char → Option Char
  | '"' => some '"'
  | '\\' => some '\\'
  | '/' => some '/'
  | 'b' => some '\x08'
  | 'f' => some '\x0c'
  | 'n' => some '\n'
  | 'r' => some '\r'
  | 't' => some '\t'
  | _ => none

/-- The number of four hexadecimal digits. -/
def fourDigits? (a b c d : Char) : Option Nat := do
  let a ← Text.hexValue? a
  let b ← Text.hexValue? b
  let c ← Text.hexValue? c
  let d ← Text.hexValue? d
  pure (((a * 16 + b) * 16 + c) * 16 + d)

/-- Whether a code is the first half of a pair. -/
def isHigh (n : Nat) : Bool := decide (0xD800 ≤ n) && decide (n < 0xDC00)

/-- Whether a code is the second half of a pair. -/
def isLow (n : Nat) : Bool := decide (0xDC00 ≤ n) && decide (n < 0xE000)

/-- The character of two halves. -/
def paired (high low : Nat) : Char :=
  Char.ofNat (0x10000 + (high - 0xD800) * 0x400 + (low - 0xDC00))

/-- A text that was read: its codes and how many characters it took with its closing mark. -/
abbrev Scanned := Except (Flaw × Nat) (List Code × Nat)

/-- A scanned text with a code in front that took `n` characters. -/
def Scanned.cons (c : Code) (n : Nat) (s : Scanned) : Scanned :=
  s.map fun r => (c :: r.1, n + r.2)

/-- Reads a text after its opening mark, which stands at index `start`; the characters left begin at
index `i`. -/
def scanText (start : Nat) : Nat → List Char → Scanned
  | _, [] => .error (.unterminated, start)
  | _, '"' :: _ => .ok ([], 1)
  | _, ['\\'] => .error (.unterminated, start)
  | i, '\\' :: 'u' :: a :: b :: c :: d :: '\\' :: 'u' :: e :: f :: g :: h :: x :: rest =>
    match fourDigits? a b c d with
    | none => .error (.unicodeEscape, i + 1)
    | some n =>
      if isHigh n then
        match fourDigits? e f g h with
        | none => .error (.unicodeEscape, i + 7)
        | some m =>
          if isLow m then (scanText start (i + 12) (x :: rest)).cons (.char (paired n m)) 12
          else
            (scanText start (i + 6) ('\\' :: 'u' :: e :: f :: g :: h :: x :: rest)).cons
              (.ofNat n) 6
      else
        (scanText start (i + 6) ('\\' :: 'u' :: e :: f :: g :: h :: x :: rest)).cons
          (.ofNat n) 6
  | i, '\\' :: 'u' :: a :: b :: c :: d :: x :: rest =>
    match fourDigits? a b c d with
    | none => .error (.unicodeEscape, i + 1)
    | some n => (scanText start (i + 6) (x :: rest)).cons (.ofNat n) 6
  | i, '\\' :: 'u' :: _ => .error (.unicodeEscape, i + 1)
  | i, '\\' :: c :: rest =>
    match escaped? c with
    | some e => (scanText start (i + 2) rest).cons (.char e) 2
    | none => .error (.escape, i)
  | i, c :: rest =>
    if c.toNat < 0x20 then .error (.controlCharacter, i)
    else (scanText start (i + 1) rest).cons (.char c) 1

/-- Whether a character is a digit of a number. -/
def isDigit (c : Char) : Bool := decide (48 ≤ c.toNat) && decide (c.toNat ≤ 57)

/-- The digits at the front of a text. -/
def digits (cs : List Char) : List Char := cs.takeWhile isDigit

/-- The digits before the point: a zero alone, or digits that do not begin with one. -/
def wholeDigits : List Char → List Char
  | '0' :: _ => ['0']
  | cs => digits cs

/-- The digits after a point, if there are any. -/
def fractionDigits : List Char → List Char
  | '.' :: cs => digits cs
  | _ => []

/-- An exponent with its sign and the number of characters it takes, if there is one. -/
def exponent? : List Char → Option (Int × Nat)
  | c :: rest =>
    if c = 'e' ∨ c = 'E' then
      let (negative, taken, body) := match rest with
        | '-' :: rest => (true, 2, rest)
        | '+' :: rest => (false, 2, rest)
        | rest => (false, 1, rest)
      let ds := digits body
      if ds = [] then none
      else
        let n : Int := Text.digitsValue ds
        some (if negative then -n else n, taken + ds.length)
    else none
  | [] => none

/-- The number at the front of a text, and how many characters it takes. -/
def scanNumber? (cs : List Char) : Option (Shape × Nat) :=
  let (negative, body) := match cs with
    | '-' :: rest => (true, rest)
    | cs => (false, cs)
  let whole := wholeDigits body
  if whole = [] then none
  else
    let afterWhole := body.drop whole.length
    let fraction := fractionDigits afterWhole
    let fractionSize := if fraction = [] then 0 else fraction.length + 1
    let exponent := exponent? (afterWhole.drop fractionSize)
    let size :=
      (if negative then 1 else 0) + whole.length + fractionSize + (exponent.elim 0 (·.2))
    if fraction = [] ∧ exponent = none then
      if Text.maxIntegerDigits < whole.length then some (.longNumber whole.length, size)
      else
        let n : Int := Text.digitsValue whole
        some (.scalar (.integer (if negative then -n else n)), size)
    else
      let shift := exponent.elim 0 (·.1) - (fraction.length : Int)
      let x := Binary64.ofDecimal negative (Text.digitsValue (whole ++ fraction)) shift
      some (.scalar (.real x), size)

/-- The words that stand for values. -/
def words : List (List Char × Value) :=
  [("null".toList, .nothing), ("true".toList, .truth true), ("false".toList, .truth false),
   ("NaN".toList, .real .undefined), ("Infinity".toList, .real (.infinite false)),
   ("-Infinity".toList, .real (.infinite true))]

/-- The token that begins with a character, and how many characters after it belong to it. -/
def lexeme (i : Nat) (c : Char) (rest : List Char) : Shape × Nat :=
  if "\x7b\x7d[],:".toList.contains c then (.mark c, 0)
  else if c = '"' then
    match scanText i (i + 1) rest with
    | .ok (cs, n) => (.text ⟨cs⟩, n)
    | .error (flaw, index) => (.badText flaw index, 0)
  else
    match words.find? fun w => w.1.isPrefixOf (c :: rest) with
    | some w => (.scalar w.2, w.1.length - 1)
    | none =>
      match scanNumber? (c :: rest) with
      | some (shape, n) => (shape, n - 1)
      | none => (.stray, 0)

/-- Whether nothing is read after a token. -/
def isLast : Shape → Bool
  | .badText .. | .longNumber _ | .stray | .finish => true
  | _ => false

/-- The tokens of the characters from index `i` on. -/
def scanFrom (i : Nat) (cs : List Char) : List Token :=
  match cs with
  | [] => [⟨i, .finish⟩]
  | c :: rest =>
    if isBlank c then scanFrom (i + 1) rest
    else
      let (shape, n) := lexeme i c rest
      if isLast shape then [⟨i, shape⟩] else ⟨i, shape⟩ :: scanFrom (i + 1 + n) (rest.drop n)
termination_by cs.length

/-- The tokens of a text. -/
def scan (cs : List Char) : List Token := scanFrom 0 cs

end Token

end BatchFrontier.Json
