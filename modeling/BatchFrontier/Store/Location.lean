import BatchFrontier.FileName
import BatchFrontier.Number.Power
import BatchFrontier.Store.Fault
import BatchFrontier.Text.Decimal
import BatchFrontier.Text.HexDigit

/-!
# Locations

Where a database is kept and what may be done with it. A location is a path, or it starts with
`file:` and is read further: an authority after two slashes, a path, and parameters after a question
mark. Bytes can be written as a percent sign with two hexadecimal digits, and a number sign ends the
location.
-/

namespace BatchFrontier.Store

/-- What may be done with a database. -/
inductive Access where
  | readOnly
  | readWrite
  /-- The database is made if it is not there. -/
  | create
  /-- The database is kept in memory, and forgotten when it is closed. -/
  | memory
  deriving DecidableEq, Repr

namespace Access

/-- The names of accesses. -/
def names : List (String × Access) :=
  [("ro", .readOnly), ("rw", .readWrite), ("rwc", .create), ("memory", .memory)]

/-- The access of a name. -/
def ofName? (name : List UInt8) : Option Access :=
  (names.find? fun n => Utf8.encode n.1.toList == name).map (·.2)

/-- Whether an access may be changed to another: only to less, or to memory, which leaves all. -/
def allows : Access → Access → Bool
  | _, .memory => true
  | .memory, _ => true
  | .readOnly, a => a = .readOnly
  | .readWrite, a => a != .create
  | .create, _ => true

end Access

/-- A location taken apart. -/
structure Location where
  path : FileName
  access : Access
  /-- The name of the file system, if it is not the usual one. -/
  fileSystem : Option (List UInt8)
  /-- The parameters with their names. -/
  parameters : List (List UInt8 × List UInt8)
  deriving DecidableEq, Repr

/-- What a location asks for in vain, with its name. -/
structure Unmet where
  demand : Demand
  name : List UInt8
  deriving DecidableEq, Repr

namespace Location

/-- The byte of an ASCII character. -/
def byte (c : Char) : UInt8 := c.toNat.toUInt8

/-- The bytes of a word. -/
def word (s : String) : List UInt8 := Utf8.encode s.toList

/-- The value of a byte as a hexadecimal digit. -/
def digitValue? (b : UInt8) : Option Nat := Text.hexValue? (Char.ofNat b.toNat)

/-- The byte that a percent sign and two digits stand for. -/
def escape? (c a b : UInt8) : Option Nat :=
  match (if c = byte '%' then digitValue? a else none), digitValue? b with
  | some high, some low => some (16 * high + low)
  | _, _ => none

/-- Bytes with every percent sign and two digits read as the byte they stand for. A zero byte ends
them. -/
def unescaped : List UInt8 → List UInt8
  | c :: a :: b :: rest =>
    match escape? c a b with
    | some 0 => []
    | some n => n.toUInt8 :: unescaped rest
    | none => c :: unescaped (a :: b :: rest)
  | bs => bs

/-- A parameter, unless it has no name. -/
def parameter? (bs : List UInt8) : Option (List UInt8 × List UInt8) :=
  let (name, value) := Pieces.cut (byte '=') bs
  let name := unescaped name
  if name = [] then none else some (name, unescaped value)

/-- The access after a parameter. -/
def accessAfter (a : Access) (parameter : List UInt8 × List UInt8) : Except Unmet Access :=
  let (name, value) := parameter
  if name = word "mode" then
    match Access.ofName? value with
    | none => .error ⟨.access, value⟩
    | some b => if a.allows b then .ok b else .error ⟨.moreAccess, value⟩
  else if name = word "cache" then
    if value = word "shared" ∨ value = word "private" then .ok a else .error ⟨.cache, value⟩
  else .ok a

/-- The file system in which nothing outlasts its connection. -/
def passingSystem : String := "memdb"

/-- The file systems. -/
def fileSystems : List String :=
  ["unix", "unix-none", "unix-dotfile", "unix-excl", passingSystem]

/-- The location of a path and parameters. -/
def assemble (path : FileName) (parameters : List (List UInt8 × List UInt8)) :
    Except Unmet Location := do
  let access ← parameters.foldlM accessAfter .create
  let system := (parameters.reverse.find? fun p => p.1 == word "vfs").map (·.2)
  match system.filter fun s => !(fileSystems.map word).contains s with
  | some s => throw ⟨.fileSystem, s⟩
  | none => pure ⟨path, access, system, parameters⟩

/-- Reads what follows the authority. -/
def ofPath (bs : List UInt8) : Except Unmet Location :=
  let (path, query) := Pieces.cut (byte '?') (Pieces.cut (byte '#') bs).1
  assemble ⟨unescaped path⟩ ((Pieces.split (byte '&') query).filterMap parameter?)

/-- The authorities that stand for this computer. -/
def localAuthorities : List String := ["", "localhost"]

/-- Reads what follows the scheme. -/
def ofUri (bs : List UInt8) : Except Unmet Location :=
  let (slashes, rest) := bs.splitAt 2
  if slashes = word "//" then
    let authority := rest.takeWhile (· != byte '/')
    if (localAuthorities.map word).contains authority then ofPath (rest.dropWhile (· != byte '/'))
    else .error ⟨.authority, authority⟩
  else ofPath bs

/-- What a location starts with that is more than a path. -/
def scheme : List UInt8 := word "file:"

/-- Reads a location. -/
def ofName (n : FileName) : Except Unmet Location :=
  if scheme.isPrefixOf n.bytes then ofUri (n.bytes.drop scheme.length)
  else .ok ⟨n, .create, none, []⟩

/-- The parameter of a name; the one given first counts. -/
def parameter (l : Location) (name : String) : Option (List UInt8) :=
  (l.parameters.find? fun p => p.1 == word name).map (·.2)

/-- The number that digits at the front of a text stand for, or zero if it has more than 31 bits. -/
def leadingNumber (cs : List Char) : Nat :=
  let read (base : Nat) (ds : List Char) : Nat :=
    ds.foldl (fun n c => base * n + (Text.hexValue? c).getD 0) 0
  let n := match cs with
    | '0' :: x :: d :: rest =>
      if (x = 'x' ∨ x = 'X') ∧ Text.isHexDigit d then
        read 16 ((d :: rest).takeWhile Text.isHexDigit)
      else read 10 (cs.takeWhile Char.isDigit)
    | cs => read 10 (cs.takeWhile Char.isDigit)
  if n < 2 ^ 31 then n else 0

/-- Whether the value of a parameter means yes. Of a number the low eight bits count. -/
def means (value : List UInt8) : Bool :=
  match value.map fun b => Char.ofNat b.toNat with
  | c :: cs =>
    if c.isDigit then leadingNumber (c :: cs) % 256 != 0
    else ["on", "yes", "true"].contains (String.ofList ((c :: cs).map Char.toLower))
  | [] => false

/-- Whether the path is that of a database that has no file. -/
def isUnnamed (l : Location) : Bool := l.path == "" || l.path == ":memory:"

/-- Whether the database is forgotten when it is closed. -/
def isPassing (l : Location) : Bool :=
  l.isUnnamed || l.access == .memory || l.fileSystem == some (word passingSystem)

/-- Whether a file is said to stay as it is. -/
def isImmutable (l : Location) : Bool :=
  !l.isUnnamed && l.access != .memory && ((l.parameter "immutable").map means).getD false

/-- Whether nothing can be written. -/
def isReadOnly (l : Location) : Bool := l.access == .readOnly || l.isImmutable

example : (ofName "file:a%62.db?mode=ro#x").toOption.map (fun l => (l.path, l.access)) =
    some (.ofString "ab.db", .readOnly) := by decide +kernel
example : (ofName "file://localhost").toOption.map (·.path) = some (.ofString "") := by
  decide +kernel

end Location

end BatchFrontier.Store
