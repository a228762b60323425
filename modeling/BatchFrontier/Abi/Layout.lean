import BatchFrontier.Address
import BatchFrontier.Word

/-!
# Values in words

The values that contracts take and return, written in words of 32 bytes. All types here have a fixed
size, so the words of a sequence of values simply follow each other. Reading is strict about the
words that belong to a value and ignores what follows them.
-/

namespace BatchFrontier.Abi

/-- The types of the values in a call or an answer. -/
inductive Kind where
  /-- An unsigned integer of a number of bits. -/
  | uint (bits : Nat)
  | address
  | bytes32
  /-- A number of words. -/
  | words (count : Nat)
  deriving DecidableEq, Repr

/-- The name of a type. -/
def Kind.name : Kind → String
  | .uint bits => "uint" ++ Text.natural bits
  | .address => "address"
  | .bytes32 => "bytes32"
  | .words count => "bytes32[" ++ Text.natural count ++ "]"

/-- The bytes of words that follow each other, if each value is the bytes of a word. -/
def packWords : List Value → Option (List UInt8)
  | [] => some []
  | .bytes bs :: rest => if bs.length = 32 then (packWords rest).map (bs ++ ·) else none
  | _ :: _ => none

/-- The bytes of a value of a type, if it is one. -/
def encode : Kind → Value → Option (List UInt8)
  | .uint bits, .integer n =>
    if 0 ≤ n ∧ n < 2 ^ bits then some (BigEndian.ofNat 32 n.toNat) else none
  | .address, .text t =>
    (Address.ofDigits? t.chars).map fun a => List.replicate 12 0 ++ a.bytes
  | .bytes32, .bytes bs => if bs.length = 32 then some bs else none
  | .words count, .list items => if items.length = count then packWords items else none
  | _, _ => none

/-- The bytes of a sequence of values, one for each type. -/
def encodeAll : List Kind → List Value → Option (List UInt8)
  | [], [] => some []
  | k :: kinds, v :: vs => do
    let here ← encode k v
    let rest ← encodeAll kinds vs
    pure (here ++ rest)
  | _, _ => none

/-- The number of bytes of a value. -/
def Kind.size : Kind → Nat
  | .words count => 32 * count
  | _ => 32

/-- Cuts a byte string into words. -/
def cutWords : Nat → List UInt8 → List Value
  | 0, _ => []
  | n + 1, bs => .bytes (bs.take 32) :: cutWords n (bs.drop 32)

/-- Reads a value from exactly its bytes. -/
def decode (k : Kind) (bs : List UInt8) : Option Value :=
  if bs.length ≠ k.size then none
  else
    match k with
    | .uint bits =>
      let n := BigEndian.toNat bs
      if n < 2 ^ bits then some (.integer n) else none
    | .address =>
      if (bs.take 12).all (· == 0) then
        (Address.ofBytes? (bs.drop 12)).map fun a => .text a.text
      else none
    | .bytes32 => some (.bytes bs)
    | .words count => some (.list (cutWords count bs))

/-- Reads one value for each type from the front of a byte string. -/
def decodeAll : List Kind → List UInt8 → Option (List Value)
  | [], _ => some []
  | k :: kinds, bs => do
    let v ← decode k (bs.take k.size)
    let vs ← decodeAll kinds (bs.drop k.size)
    pure (v :: vs)

end BatchFrontier.Abi
