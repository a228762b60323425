import BatchFrontier.Bytes.BigEndian
import BatchFrontier.Bytes.Utf8

/-!
# Messages in words

The encoding of a single text: a word with the distance to the text, there a word with its length in
bytes, then the bytes, filled up with zeros to whole words.
-/

namespace BatchFrontier.Abi

/-- The number of bytes that whole words for `n` bytes take. -/
def wholeWords (n : Nat) : Nat := (n + 31) / 32 * 32

/-- The text that a byte string encodes. All words must be there and all filling must be zero;
bytes after the last word are ignored. -/
def readMessage? (bs : List UInt8) : Option (List Char) :=
  let distance := BigEndian.toNat (bs.take 32)
  let tail := bs.drop distance
  let length := BigEndian.toNat (tail.take 32)
  let body := tail.drop 32
  let filled := body.take (wholeWords length)
  if bs.length < 32 ∨ distance < 32 ∨ bs.length ≤ distance ∨ tail.length < 32 then none
  else if filled.length ≠ wholeWords length then none
  else if (filled.drop length).any (· != 0) then none
  else
    match Utf8.decode (filled.take length) with
    | .ok cs => some cs
    | .error _ => none

/-- The encoding of a text. -/
def writeMessage (cs : List Char) : List UInt8 :=
  let bs := Utf8.encode cs
  BigEndian.ofNat 32 32 ++ BigEndian.ofNat 32 bs.length ++ bs ++
    List.replicate (wholeWords bs.length - bs.length) 0

end BatchFrontier.Abi
