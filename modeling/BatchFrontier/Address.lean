import BatchFrontier.Bytes.Keccak
import BatchFrontier.Conversion

/-!
# Addresses

An address is a string of 20 bytes. Its text has the mark `0x` and forty digits whose letters are
upper case where the digest of the lower-case digits has a half-byte of at least eight. Any case and
either mark are accepted when an address is read.
-/

namespace BatchFrontier

/-- The place of an account or a contract. -/
structure Address where
  bytes : List UInt8
  size : bytes.length = 20
  deriving DecidableEq, Repr

namespace Address

/-- The two half-bytes of each byte. -/
def halves (bs : List UInt8) : List Nat := bs.flatMap fun b => [b.toNat / 16, b.toNat % 16]

/-- A digit in the case that the half-byte of the digest asks for. -/
def checked (c : Char) (half : Nat) : Char := if 8 ≤ half then c.toUpper else c

/-- The digits of an address in their checked case. -/
def digits (a : Address) : List Char :=
  let plain := Hex.write a.bytes
  List.zipWith checked plain (halves (Keccak.digest (Utf8.encode plain)))

/-- The text of an address. -/
def text (a : Address) : String := String.ofList ('0' :: 'x' :: a.digits)

/-- The address of a byte string of the right length. -/
def ofBytes? (bs : List UInt8) : Option Address :=
  if h : bs.length = 20 then some ⟨bs, h⟩ else none

/-- Reads an address from a text without blanks at its ends. -/
def ofDigits? (cs : List Char) : Option Address := (Hex.read? (Hex.dropMark cs)).bind ofBytes?

/-- Reads an address from a text or from its bytes; blanks at the ends do not count. -/
def ofValue? : Value → Option Address
  | .text t => ofDigits? (Text.trim t.chars)
  | .bytes bs =>
    let isBlank (b : UInt8) : Bool := Text.isPlainBlank (Char.ofNat b.toNat)
    ofBytes? (((bs.dropWhile isBlank).reverse.dropWhile isBlank).reverse)
  | _ => none

/-- Reads an address, or names the value that is not one. -/
def ofValue (v : Value) : Except Fault Address :=
  match ofValue? v with
  | some a => .ok a
  | none => .error (.showing .badAddress v)

end Address

end BatchFrontier
