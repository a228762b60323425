import BatchFrontier.Fault
import BatchFrontier.Word

/-!
# Proofs

A final proof is a sequence of 24 words. It is handed over as hexadecimal text of exactly that size,
with or without a mark.
-/

namespace BatchFrontier

/-- The number of words in a proof. -/
def Proof.wordCount : Nat := 24

/-- The number of bytes in a word of a proof. -/
def Proof.wordSize : Nat := 32

/-- The number of digits in the text of a proof, without its mark. -/
def Proof.digitCount : Nat := wordCount * wordSize * 2

/-- A final proof. -/
structure Proof where
  words : List Word
  count : words.length = Proof.wordCount
  deriving DecidableEq, Repr

namespace Proof

/-- Reads `n` words; the first of them has the index `i` in the proof. -/
def readWords : (n i : Nat) → Text → Except Fault { ws : List Word // ws.length = n }
  | 0, _, _ => .ok ⟨[], rfl⟩
  | n + 1, i, digits =>
    let chunk := digits.take (wordSize * 2)
    match Word.ofHex? chunk.chars with
    | none => .error (.proofWord i chunk)
    | some w =>
      match readWords n (i + 1) (digits.drop (wordSize * 2)) with
      | .ok ⟨ws, h⟩ => .ok ⟨w :: ws, by simp [h]⟩
      | .error f => .error f

/-- Reads a proof from its text. A text of the wrong length is refused before its digits are looked
at, and the length reported is that of the whole text. -/
def ofText (text : Text) : Except Fault Proof :=
  let body := Hex.dropTextMark text
  if body.length ≠ digitCount then .error (.proofLength text.length)
  else
    match readWords wordCount 0 body with
    | .ok ⟨ws, h⟩ => .ok ⟨ws, h⟩
    | .error f => .error f

/-- Reads a proof from a value, which must be a text. -/
def ofValue : Value → Except Fault Proof
  | .text t => ofText t
  | v => .error (.mistyped v.kind)

end Proof

end BatchFrontier
