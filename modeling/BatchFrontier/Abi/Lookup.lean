import BatchFrontier.Abi.Message
import BatchFrontier.Address

/-!
# Requests for data from elsewhere

A contract may reject a call with a request: the address of the contract that asks, a list of places
where the data can be had, the question to put there, the selector of the function that takes the
data, and bytes for that function. Values of varying size stand behind the words of fixed size, each
at a distance that a word tells; a distance has to lead behind those words and into the data.
-/

namespace BatchFrontier.Abi

/-- A request for data from elsewhere. -/
structure Lookup where
  sender : Address
  places : List Text
  question : List UInt8
  callback : List UInt8
  extra : List UInt8
  deriving Repr

namespace Lookup

/-- Up to `n` bytes from a position on. -/
def slice (bs : List UInt8) (start n : Nat) : List UInt8 := (bs.drop start).take n

/-- The 32 bytes at a position. -/
def wordAt (bs : List UInt8) (start : Nat) : Except Fault (List UInt8) :=
  let word := slice bs start 32
  if word.length = 32 then .ok word else .error (.words (.shortWord 32 word.length))

/-- The number in the word at a position. -/
def numberAt (bs : List UInt8) (start : Nat) : Except Fault Nat :=
  (wordAt bs start).map BigEndian.toNat

/-- Fails unless all bytes are zero. -/
def requireZeros (filling : List UInt8) : Except Fault Unit :=
  if filling.all (· == 0) then .ok () else .error (.words (.filling filling))

/-- The address in the word at a position. -/
def addressAt (bs : List UInt8) (start : Nat) : Except Fault Address := do
  let word ← wordAt bs start
  requireZeros (word.take 12)
  match Address.ofBytes? (word.drop 12) with
  | some a => .ok a
  | none => .error (.words (.shortWord 32 word.length))

/-- The four bytes at the front of the word at a position. -/
def selectorAt (bs : List UInt8) (start : Nat) : Except Fault (List UInt8) := do
  let word ← wordAt bs start
  requireZeros (word.drop 4)
  pure (word.take 4)

/-- The bytes at a position: a word with their number, and the bytes filled up to whole words. -/
def bytesAt (bs : List UInt8) (start : Nat) : Except Fault (List UInt8) := do
  let length ← numberAt bs start
  let size := wholeWords length
  if 2 ^ 63 ≤ size then .error .hugeCount
  else
    let filled := slice bs (start + 32) size
    if filled.length < size then .error (.words (.shortBytes size filled.length))
    else
      requireZeros (filled.drop length)
      pure (filled.take length)

/-- The text at a position. -/
def textAt (bs : List UInt8) (start : Nat) : Except Fault Text := do
  match Utf8.decode (← bytesAt bs start) with
  | .ok cs => .ok (.ofChars cs)
  | .error d => .error (.utf8 d)

/-- Whether a distance from a position leads neither into the words before `limit` nor beyond the
data. -/
def leads (bs : List UInt8) (start limit distance : Nat) : Bool :=
  decide (limit ≤ start + distance) && decide (start + distance < bs.length)

/-- Checks the distances in the words of a list, of which `count` are left from a place on. -/
def checkDistances (bs : List UInt8) (start limit place : Nat) : Nat → Except Fault Unit
  | 0 => .ok ()
  | count + 1 => do
    let distance ← numberAt bs place
    if leads bs start limit distance then checkDistances bs start limit (place + 32) count
    else .error (.words (.listDistance place))

/-- The texts of a list, of which `count` are left from a place on. -/
def readTexts (bs : List UInt8) (start place : Nat) : Nat → Except Fault (List Text)
  | 0 => .ok []
  | count + 1 => do
    let distance ← numberAt bs place
    let text ← textAt bs (start + distance)
    let texts ← readTexts bs start (place + 32) count
    pure (text :: texts)

/-- The list of texts at a position: a word with their number, and behind it a distance for each
text. -/
def textsAt (bs : List UInt8) (start : Nat) : Except Fault (List Text) := do
  let count ← numberAt bs start
  let first := start + 32
  checkDistances bs first (first + 32 * count) first count
  readTexts bs first first count

/-- The number of bytes of the words of fixed size. -/
def headSize : Nat := 160

/-- Checks a distance from the front of the data, in the word at a place. -/
def checkDistance (bs : List UInt8) (place : Nat) : Except Fault Unit := do
  let distance ← numberAt bs place
  if leads bs 0 headSize distance then .ok () else .error (.words (.tupleDistance place))

/-- Reads a request. The words of fixed size are checked before anything behind them is read. -/
def ofBytes (bs : List UInt8) : Except Fault Lookup := do
  let sender ← addressAt bs 0
  checkDistance bs 32
  checkDistance bs 64
  let callback ← selectorAt bs 96
  checkDistance bs 128
  let places ← textsAt bs (← numberAt bs 32)
  let question ← bytesAt bs (← numberAt bs 64)
  let extra ← bytesAt bs (← numberAt bs 128)
  pure ⟨sender, places, question, callback, extra⟩

end Lookup

end BatchFrontier.Abi
