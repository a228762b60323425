import BatchFrontier.Conversion
import BatchFrontier.Traced
import BatchFrontier.Word

/-!
# Roots

The exit root and the state root that a proof commits to are words. They are handed over as bytes,
as hexadecimal text or as integers; what is longer than a word is cut off with a warning.
-/

namespace BatchFrontier.Root

/-- The number of bytes in a root. -/
def size : Nat := 32

/-- Whether a text holds pairs of hexadecimal digits after its mark. -/
def isPaired (cs : List Char) : Bool :=
  let digits := Hex.dropMark cs
  digits.length % 2 == 0 && digits.all Text.isHexDigit

/-- The bytes handed over for the root called `name`. -/
def rawBytes (name : Text) (v : Value) : Except Fault (List UInt8) :=
  match v with
  | .text t => if isPaired t.chars then v.toBytes else .error (.rootDigits name t)
  | v => v.toBytes

/-- The warning about a root that is too long. -/
def cutWarning (name : Text) (length : Nat) : Text :=
  name ++ " is " ++ Text.natural length ++ " bytes, truncating to " ++ Text.natural size

/-- The first word of a byte string that holds at least one. -/
def ofBytes (name : Text) (bs : List UInt8) : Traced Word :=
  if h : bs.length < size then Traced.fail (.rootLength name bs.length)
  else do
    if size < bs.length then Traced.log .warning .calldata (cutWarning name bs.length)
    pure ⟨bs.take size, by simp only [size, List.length_take] at h ⊢; omega⟩

/-- Reads the root called `name`. -/
def ofValue (name : Text) (v : Value) : Traced Word := do
  let bs ← rawBytes name v
  ofBytes name bs

end BatchFrontier.Root
