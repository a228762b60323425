import BatchFrontier.Bytes.BigEndian
import BatchFrontier.Bytes.Hex
import BatchFrontier.Fault

/-!
# Conversions between kinds of values

Values of one kind read as another: integers from numbers and texts, byte strings from texts and
integers, items of sequences. A value of a kind that has no reading is mistyped.
-/

namespace BatchFrontier.Value

/-- The characters of bytes, with a question mark for every byte outside ASCII. -/
def asciiText (bs : List UInt8) : List Char :=
  bs.map fun b => if b.toNat < 128 then Char.ofNat b.toNat else '?'

/-- The integer that a value stands for. A fraction is cut off; a text or a byte string is read as
decimal text. -/
def toInteger : Value → Except Fault Int
  | .integer n => .ok n
  | .truth b => .ok (if b then 1 else 0)
  | .real (.finite s m e) => .ok (Binary64.truncate s m e)
  | .real (.infinite _) => .error .integerOfInfinity
  | .real .undefined => .error .integerOfUndefined
  | .text t => decimal (.text t) t.chars
  | .bytes bs => decimal (.bytes bs) (asciiText bs)
  | v => .error (.mistyped v.kind)
where
  /-- Reads decimal text; `v` is the value that the text was taken from. -/
  decimal (v : Value) (cs : List Char) : Except Fault Int :=
    match Text.readInteger cs with
    | .ok n => .ok n
    | .error .malformed => .error (.integerText v)
    | .error (.tooLong digits) => .error (.integerDigits digits)

/-- The decimal text of an integer, unless it has more digits than are written. -/
def decimal (n : Int) : Except Fault String :=
  if n.natAbs < 10 ^ Text.maxIntegerDigits then .ok (Text.integer n) else .error .unwrittenInteger

/-- Whether a value is a number that is not positive. -/
def isNonpositive : Value → Except Fault Bool
  | .real x => .ok x.isNonpositive
  | v =>
    match v.integer? with
    | some n => .ok (decide (n ≤ 0))
    | none => .error (.mistyped v.kind)

/-- Whether a value counts as not given: nothing, false, zero, or anything empty. -/
def isUnset : Value → Bool
  | .nothing => true
  | .truth b => !b
  | .integer n => n == 0
  | .real x => x.equalsInt 0
  | .text t => t.isEmpty
  | .bytes bs => bs.isEmpty
  | .list items | .tuple items => items.isEmpty
  | .record fields => fields.isEmpty
  | .foreign .. => false

/-- Whether a code is outside ASCII. -/
def isForeign (c : Code) : Bool := decide (128 ≤ c.toNat)

/-- The run of codes outside ASCII that comes first. -/
def foreignRun? (cs : List Code) : Option Utf8.Gap :=
  let plain := cs.takeWhile fun c => !isForeign c
  match cs.drop plain.length with
  | [] => none
  | c :: rest => some ⟨plain.length, plain.length + 1 + (rest.takeWhile isForeign).length, c⟩

/-- A text without its mark, filled up with a leading zero to pairs of digits. -/
def pairedDigits (t : Text) : List Code :=
  let digits := (Hex.dropTextMark t).codes
  if t.length % 2 = 1 then .char '0' :: digits else digits

/-- The bytes written by a hexadecimal text, with or without a mark; an odd number of digits is
filled up with a leading zero. -/
def bytesOfText (t : Text) : Except Fault (List UInt8) :=
  let digits := pairedDigits t
  match foreignRun? digits with
  | some gap => .error (.notAscii gap)
  | none =>
    match Hex.read? (digits.map Code.toChar) with
    | some bs => .ok bs
    | none => .error .notHex

/-- The bytes that a value stands for: a byte string as it is, a text by its hexadecimal digits, an
integer by its bytes from the most significant on. -/
def toBytes : Value → Except Fault (List UInt8)
  | .bytes bs => .ok bs
  | .text t => bytesOfText t
  | .truth b => .ok [if b then 1 else 0]
  | .integer n => if n < 0 then .error (.negativeBytes n) else .ok (BigEndian.minimal n.toNat)
  | v => .error (.notBytes v)

/-- The bytes of a sequence of small integers. -/
def packBytes : List Value → Except Fault (List UInt8)
  | [] => .ok []
  | v :: rest =>
    match v.integer? with
    | none => .error (.mistyped v.kind)
    | some n =>
      if n < 0 ∨ 256 ≤ n then .error .byteRange
      else (packBytes rest).map (UInt8.ofNat n.toNat :: ·)

/-- A byte string from a value: itself, as many zeros as an integer says, or one byte for each
integer of a sequence. -/
def toByteString : Value → Except Fault (List UInt8)
  | .bytes bs => .ok bs
  | .list items | .tuple items => packBytes items
  | .record [] => .ok []
  | v =>
    match v.integer? with
    | some n =>
      if n < -(2 : Int) ^ 63 ∨ (2 : Int) ^ 63 ≤ n then .error .hugeCount
      else if n < 0 then .error .negativeCount
      else .ok (List.replicate n.toNat 0)
    | none => .error (.mistyped v.kind)

/-- The item of a sequence at an index from zero. -/
def item (v : Value) (i : Nat) : Except Fault Value :=
  match v with
  | .tuple items => pick "tuple" items
  | .list items => pick "list" items
  | .text t => pick "string" (t.codes.map fun c => .text (.ofCode c))
  | .bytes bs => pick "" (bs.map fun b => .integer b.toNat)
  | .record _ => .error (.missingKey (.integer i))
  | v => .error (.notIndexable v.kind)
where
  /-- The item at the index, or a fault that names the kind of sequence. -/
  pick (kind : String) (items : List Value) : Except Fault Value :=
    match items[i]? with
    | some v => .ok v
    | none => .error (.outOfRange kind)

/-- The field of a record under a name; other values have no names. -/
def named (v : Value) (name : Text) : Except Fault Value :=
  match v with
  | .record fields =>
    match field? fields name with
    | some w => .ok w
    | none => .error (.missingKey (.text name))
  | .tuple _ | .list _ | .text _ | .bytes _ => .error (.mistyped v.kind)
  | v => .error (.notIndexable v.kind)

end BatchFrontier.Value
