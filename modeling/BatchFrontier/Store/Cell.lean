import BatchFrontier.Fault
import BatchFrontier.Store.Fault
import BatchFrontier.Store.Numeral

/-!
# Cells

What a column of whole numbers stores: nothing, an integer of 64 bits, a floating-point number, a
text or bytes. Texts that look like numbers are stored as the numbers, and floating-point numbers
without a fraction as integers. Cells are ordered by kind, then by what they hold.
-/

namespace BatchFrontier.Store

/-- A stored value. -/
inductive Cell where
  | null
  | integer (n : Int)
  | real (x : Binary64)
  | text (s : String)
  | blob (bs : List UInt8)
  deriving DecidableEq, Repr

namespace Cell

/-- Whether an integer has 64 bits. -/
def fits (n : Int) : Bool := decide (-(2 : Int) ^ 63 ≤ n) && decide (n < (2 : Int) ^ 63)

/-- The cell of a floating-point number: an integer if there is no fraction and the number lies
strictly inside the range of 64 bits. -/
def ofReal (x : Binary64) : Cell :=
  match x with
  | .finite s m e =>
    let n := Binary64.truncate s m e
    if x.equalsInt n && decide (n.natAbs < 2 ^ 63) then .integer n else .real x
  | .infinite _ => .real x
  | .undefined => .null

/-- The cell of a text: the number that it looks like, or else the text. An integer of 64 bits is
exact. -/
def ofText (s : String) : Cell :=
  match Numeral.read? s.toList with
  | none => .text s
  | some n =>
    if n.isWhole ∧ fits n.wholeValue then .integer n.wholeValue else ofReal n.toBinary64

/-- The cell of a parameter, which stands at a position counted from one. A text is stored as bytes,
so it must have them. -/
def ofValue (position : Nat) : Value → Except BatchFrontier.Fault Cell
  | .nothing => .ok .null
  | .truth b => .ok (.integer (if b then 1 else 0))
  | .integer n => if fits n then .ok (.integer n) else .error .hugeInteger
  | .real x => .ok (ofReal x)
  | .text t =>
    match Utf8.encodeText t with
    | .ok _ => .ok (ofText (String.ofList t.chars))
    | .error gap => .error (.notUtf8 gap)
  | .bytes bs => .ok (.blob bs)
  | v => .error (.storage (.unsupportedParameter position v.kind))

/-- The cells of parameters, the first of which stands at a position. -/
def ofValues (position : Nat) : List Value → Except BatchFrontier.Fault (List Cell)
  | [] => .ok []
  | v :: vs => do
    let cell ← ofValue position v
    let cells ← ofValues (position + 1) vs
    pure (cell :: cells)

/-- The value of a cell. -/
def toValue : Cell → Value
  | .null => .nothing
  | .integer n => .integer n
  | .real x => .real x
  | .text s => .text s
  | .blob bs => .bytes bs

/-- The place of a kind of cell in the order of cells. -/
def rank : Cell → Nat
  | .null => 0
  | .integer _ | .real _ => 1
  | .text _ => 2
  | .blob _ => 3

/-- A number as a multiple of a power of two: the multiple and the exponent. -/
def scaled? : Cell → Option (Int × Int)
  | .integer n => some (n, 0)
  | .real (.finite s m e) => some (Binary64.signed s m, e)
  | _ => none

/-- The order of numbers; infinities come first and last. -/
def compareNumbers (a b : Cell) : Ordering :=
  match scaled? a, scaled? b with
  | some (m, e), some (n, f) =>
    let low := min e f
    compare (m * 2 ^ (e - low).toNat) (n * 2 ^ (f - low).toNat)
  | none, none => compare (isLow b) (isLow a)
  | none, some _ => if isLow a then .lt else .gt
  | some _, none => if isLow b then .gt else .lt
where
  /-- Whether a cell holds the negative infinity. -/
  isLow : Cell → Bool
    | .real (.infinite s) => s
    | _ => false

/-- The order of byte strings. -/
def compareBytes : List UInt8 → List UInt8 → Ordering
  | [], [] => .eq
  | [], _ :: _ => .lt
  | _ :: _, [] => .gt
  | a :: as, b :: bs => (compare a.toNat b.toNat).then (compareBytes as bs)

/-- The order of cells. -/
def order (a b : Cell) : Ordering :=
  match a, b with
  | .text s, .text t => compareBytes (Utf8.encode s.toList) (Utf8.encode t.toList)
  | .blob s, .blob t => compareBytes s t
  | a, b => if a.rank = b.rank ∧ a.rank = 1 then compareNumbers a b else compare a.rank b.rank

/-- Whether two cells are equal as keys; a null equals nothing. -/
def isSame (a b : Cell) : Bool := a.rank != 0 && a.order b == .eq

example : ofText " 5 " = .integer 5 ∧ ofText "1e3" = .integer 1000 := by decide +kernel
example : ofText "0x5" = .text "0x5" ∧ ofText "5_0" = .text "5_0" := by decide +kernel

end Cell

end BatchFrontier.Store
