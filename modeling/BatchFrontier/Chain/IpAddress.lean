import BatchFrontier.Pieces
import BatchFrontier.Text.Decimal
import BatchFrontier.Text.HexDigit

/-!
# Addresses of hosts

A host can be named by its address. An address of version four is four numbers with points between
them. An address of version six is eight groups of hexadecimal digits with colons between them; two
colons once stand for all groups that are left out, the last two groups may be written as an address
of version four, and a zone may follow behind a percent sign.
-/

namespace BatchFrontier.Chain

/-- The versions of addresses. -/
inductive IpVersion where
  | four
  | six
  deriving DecidableEq, Repr

namespace IpVersion

/-- Whether some characters write one of the numbers of an address of version four: at most three
digits without a leading zero. -/
def isNumber (cs : List Char) : Bool :=
  !cs.isEmpty && cs.all Char.isDigit && decide (cs.length ≤ 3) &&
    (cs == ['0'] || cs.head? != some '0') && decide (Text.digitsValue cs ≤ 255)

/-- Whether some characters write an address of version four. -/
def isFour (cs : List Char) : Bool :=
  let numbers := Pieces.split '.' cs
  numbers.length == 4 && numbers.all isNumber

/-- Whether some characters write a group of an address of version six. -/
def isGroup (cs : List Char) : Bool :=
  !cs.isEmpty && decide (cs.length ≤ 4) && cs.all Text.isHexDigit

/-- The groups of an address of version six, where an address of version four at the end counts as
two groups. -/
def groups? (cs : List Char) : Option (List (List Char)) :=
  let pieces := Pieces.split ':' cs
  let last := pieces.getLastD []
  if last.contains '.' = false then some pieces
  else if isFour last then some (pieces.dropLast ++ [['0'], ['0']])
  else none

/-- Whether pieces are the groups of a whole address. An empty piece that is neither the first nor
the last stands for the groups that are left out; there is one at most. The first and the last piece
may be empty only next to it. -/
def isWhole (pieces : List (List Char)) : Bool :=
  let inner := (pieces.drop 1).dropLast
  if inner.all fun p => !p.isEmpty then pieces.length == 8 && pieces.all isGroup
  else
    let front := pieces.take (1 + (inner.takeWhile fun p => !p.isEmpty).length)
    let back := pieces.drop (front.length + 1)
    let front := if front == [[]] then [] else front
    let back := if back == [[]] then [] else back
    decide (front.length + back.length ≤ 7) && front.all isGroup && back.all isGroup

/-- Whether some characters write an address of version six. -/
def isSix (cs : List Char) : Bool :=
  let (address, zone) := Pieces.cut '%' cs
  let isZoned := decide (address.length < cs.length)
  (!isZoned || (!zone.isEmpty && !zone.contains '%')) &&
    (groups? address).elim false isWhole

/-- The version of the address that some characters write, if they write one. -/
def ofChars? (cs : List Char) : Option IpVersion :=
  if isFour cs then some .four else if isSix cs then some .six else none

example : ofChars? "127.0.0.1".toList = some .four := by decide +kernel

example : ofChars? "::ffff:10.0.0.1%lan".toList = some .six := by decide +kernel

example : ofChars? "1::2::3".toList = none := by decide +kernel

end IpVersion

end BatchFrontier.Chain
