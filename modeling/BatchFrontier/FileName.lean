import BatchFrontier.Bytes.Utf8
import BatchFrontier.Pieces

/-!
# Names of files

The name of a file, and a path made of such names, is a string of bytes. As a text it is read in
UTF-8, and every byte that belongs to no character stands as a half of its own. So each name has a
text, but only some halves can stand in the text of a name.
-/

namespace BatchFrontier

/-- The name of a file, or a path. -/
structure FileName where
  bytes : List UInt8
  deriving DecidableEq, Repr

namespace FileName

/-- The name of a string. -/
def ofString (s : String) : FileName := ⟨Utf8.encode s.toList⟩

instance : Coe String FileName := ⟨ofString⟩

/-- The number among the halves from which the value of a byte counts. -/
def firstByte : Nat := 0x400

/-- The byte that a half stands for, if it stands for one outside ASCII. -/
def byteOfHalf? (n : Fin Code.halfCount) : Option UInt8 :=
  if firstByte + 0x80 ≤ n.val ∧ n.val < firstByte + 0x100 then some (n.val - firstByte).toUInt8
  else none

/-- The half that stands for a byte. -/
def halfOfByte (b : UInt8) : Code := .ofNat (Code.firstHalf + firstByte + b.toNat)

/-- The bytes of a code in a name, if it may stand there. -/
def codeBytes? : Code → Option (List UInt8)
  | .char c => some (String.utf8EncodeChar c)
  | .half n => (byteOfHalf? n).map fun b => [b]

/-- The name that a text writes, or the first codes that cannot stand in a name. -/
def ofText (t : Text) : Except Utf8.Gap FileName :=
  (Utf8.encodeCodes codeBytes? 0 t.codes).map mk

/-- The codes of bytes, where `fuel` bounds the number of defects. -/
def codesFrom (fuel : Nat) (bs : List UInt8) : List Code :=
  match fuel, Utf8.decode bs with
  | _, .ok cs => cs.map .char
  | 0, .error _ => bs.map halfOfByte
  | fuel + 1, .error d =>
    let before := ((Utf8.decode (bs.take d.first)).toOption.getD []).map Code.char
    let flawed := ((bs.take d.stop).drop d.first).map halfOfByte
    before ++ flawed ++ codesFrom fuel (bs.drop d.stop)

/-- The text of a name. -/
def text (n : FileName) : Text := ⟨codesFrom n.bytes.length n.bytes⟩

/-- The number of bytes. -/
def size (n : FileName) : Nat := n.bytes.length

/-- What stands between the names of a path. -/
def slash : UInt8 := '/'.toNat.toUInt8

/-- The names between the slashes of a path. -/
def steps (n : FileName) : List FileName := (Pieces.split slash n.bytes).map mk

/-- The last name of a path. -/
def last (n : FileName) : FileName := n.steps.getLastD ⟨[]⟩

/-- Whether a path begins at the root. -/
def isAbsolute (n : FileName) : Bool := n.bytes.head? == some slash

/-- Whether a name holds a zero byte, which no file has in its name. -/
def holdsZero (n : FileName) : Bool := n.bytes.contains 0

example : (ofText ⟨[.char 'a', .half 0x4FF]⟩).map bytes = .ok [0x61, 0xFF] := by rfl
example : text ⟨[0x61, 0xFF, 0xC3]⟩ = ⟨[.char 'a', .half 0x4FF, .half 0x4C3]⟩ := by decide +kernel

end FileName

end BatchFrontier
