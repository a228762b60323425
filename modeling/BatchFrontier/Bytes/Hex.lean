import BatchFrontier.Text.Blank
import BatchFrontier.Text.Code
import BatchFrontier.Text.HexDigit

/-!
# Bytes in hexadecimal text

Bytes are written with two lower-case digits each and read in either case. A text may carry one
leading mark, `0x` or `0X`, which the readers here do not strip on their own.
-/

namespace BatchFrontier.Hex

open BatchFrontier.Text

/-- The two digits of a byte. -/
def ofByte (b : UInt8) : List Char := hexOfWidth 2 b.toNat

/-- The digits of a byte string. -/
def write (bs : List UInt8) : List Char := bs.flatMap ofByte

/-- The digits of a byte string after the mark `0x`. -/
def writeMarked (bs : List UInt8) : String := String.ofList ('0' :: 'x' :: write bs)

/-- A text without its leading mark; only one mark is dropped. -/
def dropMark : List Char → List Char
  | '0' :: 'x' :: rest => rest
  | '0' :: 'X' :: rest => rest
  | cs => cs

/-- A text without its leading mark, halves of characters included. -/
def dropTextMark (t : Text) : Text :=
  match t.codes with
  | .char '0' :: .char 'x' :: rest => ⟨rest⟩
  | .char '0' :: .char 'X' :: rest => ⟨rest⟩
  | _ => t

/-- The mark is dropped from a text as it is from its characters. -/
theorem chars_dropTextMark (t : Text) : (dropTextMark t).chars = dropMark t.chars := by
  obtain ⟨codes⟩ := t
  match codes with
  | [] => rfl
  | [.char c] => simp [dropTextMark, chars, dropMark]
  | [.half n] => simp [dropTextMark, chars, dropMark]
  | .half n :: d :: rest => simp [dropTextMark, chars, dropMark, Code.toChar]
  | .char c :: .half n :: rest => simp [dropTextMark, chars, dropMark, Code.toChar]
  | .char c :: .char d :: rest =>
    by_cases hc : c = '0' <;> by_cases hx : d = 'x' <;> by_cases hX : d = 'X' <;>
      simp [dropTextMark, chars, dropMark, Code.toChar, hc, hx, hX]

/-- The byte that two digits stand for. -/
def byte? (high low : Char) : Option UInt8 := do
  let h ← hexValue? high
  let l ← hexValue? low
  pure (UInt8.ofNat (16 * h + l))

/-- Reads a text that holds nothing but pairs of digits. -/
def read? : List Char → Option (List UInt8)
  | [] => some []
  | [_] => none
  | high :: low :: rest => do
    let b ← byte? high low
    let bs ← read? rest
    pure (b :: bs)

/-- Reads pairs of digits with plain blanks before, between and after the pairs. Positions count
from `i`; at fault is the position of the first character that does not fit, or of the end. -/
def scanSpaced (i : Nat) : List Char → Except Nat (List UInt8)
  | [] => .ok []
  | [c] => if isPlainBlank c then .ok [] else .error (if isHexDigit c then i + 1 else i)
  | c :: d :: rest =>
    if isPlainBlank c then scanSpaced (i + 1) (d :: rest)
    else if isHexDigit c = false then .error i
    else
      match byte? c d with
      | some b => (scanSpaced (i + 2) rest).map (b :: ·)
      | none => .error (i + 1)

/-- Reads pairs of digits with plain blanks around them. A character outside ASCII is found before
all others that do not fit. -/
def readSpaced (cs : List Char) : Except Nat (List UInt8) :=
  match cs.findIdx? fun c => decide (128 ≤ c.toNat) with
  | some i => .error i
  | none => scanSpaced 0 cs

@[simp] theorem write_nil : write [] = [] := rfl

@[simp] theorem write_cons (b : UInt8) (bs : List UInt8) :
    write (b :: bs) = ofByte b ++ write bs := rfl

theorem write_append (as bs : List UInt8) : write (as ++ bs) = write as ++ write bs := by
  simp [write]

theorem length_ofByte (b : UInt8) : (ofByte b).length = 2 := length_hexOfWidth 2 b.toNat

theorem length_write (bs : List UInt8) : (write bs).length = 2 * bs.length := by
  induction bs with
  | nil => rfl
  | cons b bs ih => simp [length_ofByte, ih]; omega

theorem byte?_ofByte (b : UInt8) :
    byte? (hexDigit (b.toNat / 16)) (hexDigit b.toNat) = some b := by
  have hb := b.toNat_lt
  have h : 16 * (b.toNat / 16 % 16) + b.toNat % 16 = b.toNat := by omega
  simp only [byte?, hexValue?_hexDigit]
  change some (UInt8.ofNat (16 * (b.toNat / 16 % 16) + b.toNat % 16)) = some b
  rw [h, UInt8.ofNat_toNat]

/-- Reading takes back what writing produced. -/
theorem read?_write (bs : List UInt8) : read? (write bs) = some bs := by
  induction bs with
  | nil => rfl
  | cons b bs ih =>
    simp only [write_cons, ofByte, hexOfWidth, List.nil_append, List.cons_append, read?,
      byte?_ofByte, ih]
    rfl

end BatchFrontier.Hex
