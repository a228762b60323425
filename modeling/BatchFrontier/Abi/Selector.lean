import BatchFrontier.Bytes.Hex
import BatchFrontier.Bytes.Keccak
import BatchFrontier.Bytes.Utf8

/-!
# Selectors

A function or an error of a contract is told by the first four bytes of the digest of its signature.
-/

namespace BatchFrontier.Abi

/-- The selector of a signature. -/
def selector (signature : String) : List UInt8 :=
  (Keccak.digest (Utf8.encode signature.toList)).take 4

/-- The selector of a signature in hexadecimal digits. -/
def selectorDigits (signature : String) : String :=
  String.ofList (Hex.write (selector signature))

end BatchFrontier.Abi
