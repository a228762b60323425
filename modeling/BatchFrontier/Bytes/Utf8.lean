import BatchFrontier.Text.Code

/-!
# Texts as bytes

Bytes are read as text in UTF-8. Only shortest forms of Unicode scalar values are accepted; the
first sequence that is not one is reported with its place and with what is wrong about it. A text is
written unless it holds a code that has no bytes: half a character has none.
-/

namespace BatchFrontier.Utf8

/-- What is wrong with a sequence of bytes. -/
inductive Flaw where
  /-- No sequence starts with this byte. -/
  | start
  /-- A byte of the sequence does not continue it. -/
  | continuation
  /-- The bytes end inside the sequence. -/
  | cutShort
  deriving DecidableEq, Repr

/-- A sequence that is not valid, as the half-open range of its bytes. -/
structure Defect where
  /-- The position of the first byte. -/
  first : Nat
  /-- The position after the last byte. -/
  stop : Nat
  /-- The byte at the first position. -/
  byte : UInt8
  /-- What is wrong with the sequence. -/
  flaw : Flaw
  deriving DecidableEq, Repr

/-- Whether a byte lies in a range. -/
def within (low high : Nat) (b : UInt8) : Bool := decide (low ≤ b.toNat) && decide (b.toNat ≤ high)

/-- The range of the second byte, given the first byte of a sequence of three or four. -/
def secondRange (lead : UInt8) : Nat × Nat :=
  match lead.toNat with
  | 0xE0 => (0xA0, 0xBF)
  | 0xED => (0x80, 0x9F)
  | 0xF0 => (0x90, 0xBF)
  | 0xF4 => (0x80, 0x8F)
  | _ => (0x80, 0xBF)

/-- Whether a byte may stand second after a given first byte. -/
def seconds (lead b : UInt8) : Bool := within (secondRange lead).1 (secondRange lead).2 b

/-- Whether a byte may stand third or fourth. -/
def continues (b : UInt8) : Bool := within 0x80 0xBF b

/-- The six bits that a continuing byte adds. -/
def bits (b : UInt8) : Nat := b.toNat % 64

/-- Decodes the bytes from position `i` on. -/
def decodeFrom : Nat → List UInt8 → Except Defect (List Char)
  | _, [] => .ok []
  | i, a :: rest =>
    let fail (n : Nat) (f : Flaw) : Except Defect (List Char) := .error ⟨i, i + n, a, f⟩
    let n := a.toNat
    if n < 0x80 then (decodeFrom (i + 1) rest).map (Char.ofNat n :: ·)
    else if n < 0xC2 then fail 1 .start
    else if n < 0xE0 then
      match rest with
      | [] => fail 1 .cutShort
      | b :: rest =>
        if continues b then
          (decodeFrom (i + 2) rest).map (Char.ofNat (64 * (n - 0xC0) + bits b) :: ·)
        else fail 1 .continuation
    else if n < 0xF0 then
      match rest with
      | [] => fail 1 .cutShort
      | [b] => if seconds a b then fail 2 .cutShort else fail 1 .continuation
      | b :: c :: rest =>
        if seconds a b = false then fail 1 .continuation
        else if continues c then
          (decodeFrom (i + 3) rest).map
            (Char.ofNat (4096 * (n - 0xE0) + 64 * bits b + bits c) :: ·)
        else fail 2 .continuation
    else if n < 0xF5 then
      match rest with
      | [] => fail 1 .cutShort
      | [b] => if seconds a b then fail 2 .cutShort else fail 1 .continuation
      | [b, c] =>
        if seconds a b = false then fail 1 .continuation
        else if continues c then fail 3 .cutShort
        else fail 2 .continuation
      | b :: c :: d :: rest =>
        if seconds a b = false then fail 1 .continuation
        else if continues c = false then fail 2 .continuation
        else if continues d then
          (decodeFrom (i + 4) rest).map
            (Char.ofNat (262144 * (n - 0xF0) + 4096 * bits b + 64 * bits c + bits d) :: ·)
        else fail 3 .continuation
    else fail 1 .start

/-- The text that a byte string encodes, or its first defect. -/
def decode (bs : List UInt8) : Except Defect (List Char) := decodeFrom 0 bs

/-- The bytes of some characters. -/
def encode (cs : List Char) : List UInt8 := cs.flatMap String.utf8EncodeChar

/-- A run of codes that have no bytes, as the half-open range of their positions. -/
structure Gap where
  /-- The position of the first code. -/
  first : Nat
  /-- The position after the last code. -/
  stop : Nat
  /-- The code at the first position. -/
  code : Code
  deriving DecidableEq, Repr

/-- The bytes of the codes from position `i` on, where `bytes?` gives those of a single code. The
first code without bytes is reported together with the halves that follow it. -/
def encodeCodes (bytes? : Code → Option (List UInt8)) (i : Nat) :
    List Code → Except Gap (List UInt8)
  | [] => .ok []
  | c :: rest =>
    match bytes? c with
    | some bs => (encodeCodes bytes? (i + 1) rest).map (bs ++ ·)
    | none => .error ⟨i, i + 1 + (rest.takeWhile Code.isHalf).length, c⟩

/-- The bytes of a code, if it is that of a character. -/
def codeBytes? : Code → Option (List UInt8)
  | .char c => some (String.utf8EncodeChar c)
  | .half _ => none

/-- The bytes of a text, or the first codes that have none. -/
def encodeText (t : Text) : Except Gap (List UInt8) := encodeCodes codeBytes? 0 t.codes

example : decode [0xE2, 0x82, 0xAC, 0x41] = .ok ['€', 'A'] := by rfl
example : decode [0x41, 0xED, 0xA0, 0x80] = .error ⟨1, 2, 0xED, .continuation⟩ := by rfl
example : encode ['€', 'A'] = [0xE2, 0x82, 0xAC, 0x41] := by decide
example : encodeText ⟨[.char 'a', .half 0, .half 1]⟩ = .error ⟨1, 3, .half 0⟩ := by rfl

end BatchFrontier.Utf8
