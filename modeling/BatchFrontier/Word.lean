import BatchFrontier.Bytes.BigEndian
import BatchFrontier.Bytes.Hex

/-!
# Words

The 32-byte words of the chain: roots, the parts of a proof, and the places of encoded calls.
-/

namespace BatchFrontier

/-- A string of 32 bytes. -/
structure Word where
  bytes : List UInt8
  size : bytes.length = 32
  deriving DecidableEq, Repr

namespace Word

/-- The word that holds a number, which counts modulo 2^256. -/
def ofNat (n : Nat) : Word := ⟨BigEndian.ofNat 32 n, BigEndian.length_ofNat 32 n⟩

/-- The number in a word. -/
def toNat (w : Word) : Nat := BigEndian.toNat w.bytes

/-- The word of a byte string of the right length. -/
def ofBytes? (bs : List UInt8) : Option Word :=
  if h : bs.length = 32 then some ⟨bs, h⟩ else none

/-- The word written by 64 hexadecimal digits. -/
def ofHex? (cs : List Char) : Option Word := (Hex.read? cs).bind ofBytes?

@[simp] theorem ofBytes?_bytes (w : Word) : ofBytes? w.bytes = some w := by
  simp [ofBytes?, w.size]

theorem toNat_ofNat (n : Nat) : (ofNat n).toNat = n % 256 ^ 32 := BigEndian.toNat_ofNat 32 n

end Word

end BatchFrontier
