import BatchFrontier.Number.Binary64
import BatchFrontier.Text.Quoted

/-!
# Values

The values that contracts return, that proof documents hold and that callers pass: a JSON value with
two kinds of sequence and with byte strings. A value has a literal text, which quotes texts, and a
shown text, which is the text itself for a text and the literal for everything else, unless the
value is known by its two texts only.
-/

namespace BatchFrontier

/-- A value of any kind. -/
inductive Value where
  | nothing
  | truth (b : Bool)
  | integer (n : Int)
  | real (x : Binary64)
  | text (t : Text)
  | bytes (bs : List UInt8)
  | list (items : List Value)
  | tuple (items : List Value)
  | record (fields : List (Text × Value))
  /-- A value of another kind, such as a failure, of which the two texts are known. -/
  | foreign (kind : String) (shown : Text) (literal : String)
  deriving Repr, Inhabited

namespace Value

mutual

/-- The literal text of a value. -/
def literal : Value → String
  | .nothing => "None"
  | .truth b => if b then "True" else "False"
  | .integer n => Text.integer n
  | .real x => x.shown
  | .text t => t.quote
  | .bytes bs => Text.quoteBytes bs
  | .list items => "[" ++ String.intercalate ", " (literals items) ++ "]"
  | .tuple [item] => "(" ++ literal item ++ ",)"
  | .tuple items => "(" ++ String.intercalate ", " (literals items) ++ ")"
  | .record fields => "\x7b" ++ String.intercalate ", " (fieldLiterals fields) ++ "\x7d"
  | .foreign _ _ written => written

/-- The literal texts of a sequence. -/
def literals : List Value → List String
  | [] => []
  | v :: rest => literal v :: literals rest

/-- The literal texts of the fields of a record. -/
def fieldLiterals : List (Text × Value) → List String
  | [] => []
  | (name, v) :: rest => (name.quote ++ ": " ++ literal v) :: fieldLiterals rest

end

mutual

/-- The literal text of a value inside an answer of a node, where records stand under a name. -/
def attributeLiteral : Value → String
  | .list items => "[" ++ String.intercalate ", " (attributeLiterals items) ++ "]"
  | .tuple [item] => "(" ++ attributeLiteral item ++ ",)"
  | .tuple items => "(" ++ String.intercalate ", " (attributeLiterals items) ++ ")"
  | .record fields =>
    "AttributeDict(\x7b" ++ String.intercalate ", " (attributeFieldLiterals fields) ++ "\x7d)"
  | v => v.literal

/-- The literal texts of a sequence inside an answer. -/
def attributeLiterals : List Value → List String
  | [] => []
  | v :: rest => attributeLiteral v :: attributeLiterals rest

/-- The literal texts of the fields of a record inside an answer. -/
def attributeFieldLiterals : List (Text × Value) → List String
  | [] => []
  | (name, v) :: rest =>
    (name.quote ++ ": " ++ attributeLiteral v) :: attributeFieldLiterals rest

end

/-- The text of a value on its own: texts stand without marks. -/
def shown : Value → Text
  | .text t => t
  | .foreign _ spoken _ => spoken
  | v => v.literal

/-- The name of the kind of a value. -/
def kind : Value → String
  | .nothing => "NoneType"
  | .truth _ => "bool"
  | .integer _ => "int"
  | .real _ => "float"
  | .text _ => "str"
  | .bytes _ => "bytes"
  | .list _ => "list"
  | .tuple _ => "tuple"
  | .record _ => "dict"
  | .foreign kind _ _ => kind

/-- The integer that a value is, counting truth values as one and zero. -/
def integer? : Value → Option Int
  | .integer n => some n
  | .truth b => some (if b then 1 else 0)
  | _ => none

mutual

/-- Whether a value can be a key: lists and records cannot, nor can a tuple that holds one. -/
def isKey : Value → Bool
  | .list _ | .record _ => false
  | .tuple items => areKeys items
  | _ => true

/-- Whether every value of a sequence can be a key. -/
def areKeys : List Value → Bool
  | [] => true
  | v :: rest => isKey v && areKeys rest

end

mutual

/-- Whether all integers of a value have few enough digits to be written. -/
def isWritable : Value → Bool
  | .integer n => decide (n.natAbs < 10 ^ Text.maxIntegerDigits)
  | .list items | .tuple items => areWritable items
  | .record fields => haveWritable fields
  | _ => true

/-- Whether all integers of some values can be written. -/
def areWritable : List Value → Bool
  | [] => true
  | v :: rest => isWritable v && areWritable rest

/-- Whether all integers of some fields can be written. -/
def haveWritable : List (Text × Value) → Bool
  | [] => true
  | (_, v) :: rest => isWritable v && haveWritable rest

end

theorem isWritable_integer_iff {n : Int} :
    (Value.integer n).isWritable = true ↔ n.natAbs < 10 ^ Text.maxIntegerDigits := by
  rw [isWritable, decide_eq_true_eq]

theorem isWritable_integer_eq_false_iff {n : Int} :
    (Value.integer n).isWritable = false ↔ 10 ^ Text.maxIntegerDigits ≤ n.natAbs := by
  rw [isWritable, decide_eq_false_iff_not, Nat.not_lt]

/-- An integer of few digits can be written. -/
theorem isWritable_of_natAbs_lt {n : Int} {digits : Nat} (h : n.natAbs < 10 ^ digits)
    (hdigits : digits ≤ Text.maxIntegerDigits) : (Value.integer n).isWritable = true :=
  isWritable_integer_iff.mpr
    (Nat.lt_of_lt_of_le h (Nat.pow_le_pow_right (by decide) hdigits))

/-- A list can be written exactly if all its items can. -/
theorem isWritable_list_iff {items : List Value} :
    (Value.list items).isWritable = true ↔ ∀ v ∈ items, v.isWritable = true := by
  rw [isWritable]
  induction items with
  | nil => simp [areWritable]
  | cons v rest ih => simp [areWritable, ih]

/-- A value that is an integer can be written exactly if the integer can. -/
theorem isWritable_iff_of_integer? {v : Value} {n : Int} (h : v.integer? = some n) :
    v.isWritable = true ↔ n.natAbs < 10 ^ Text.maxIntegerDigits := by
  cases v with
  | integer m =>
    obtain rfl := Option.some.inj h
    exact isWritable_integer_iff
  | truth t =>
    obtain rfl := Option.some.inj h
    have hdigits : 10 ^ 1 ≤ 10 ^ Text.maxIntegerDigits :=
      Nat.pow_le_pow_right (by decide) (by decide)
    have hsmall : (if t then 1 else 0 : Int).natAbs < 10 ^ 1 := by cases t <;> decide
    exact ⟨fun _ => Nat.lt_of_lt_of_le hsmall hdigits, fun _ => rfl⟩
  | _ => cases h

@[simp] theorem isWritable_text (t : Text) : (Value.text t).isWritable = true := rfl

/-- The values that a value holds: its members, its codes, its bytes as numbers or the names of its
fields. -/
def members? : Value → Option (List Value)
  | .list vs | .tuple vs => some vs
  | .text t => some (t.codes.map fun c => .text (.ofCode c))
  | .bytes bs => some (bs.map fun b => .integer b.toNat)
  | .record fs => some (fs.map fun f => .text f.1)
  | _ => none

/-- The values that a value holds, none if it is no kind that holds values. -/
def members (v : Value) : List Value := v.members?.getD []

/-- The field of a record. -/
def field? (fields : List (Text × Value)) (name : Text) : Option Value :=
  (fields.find? fun f => f.1 == name).map (·.2)

mutual

/-- Whether two values are equal. Numbers are compared by what they are worth, truth values counting
as one and zero; a list is never equal to a tuple; the fields of a record may stand in any order. -/
def equals : Value → Value → Bool
  | .nothing, .nothing => true
  | .text s, .text t => s == t
  | .bytes a, .bytes b => a == b
  | .list a, .list b => equalItems a b
  | .tuple a, .tuple b => equalItems a b
  | .record a, .record b => a.length == b.length && equalFields a b
  | .real x, .real y => x.equals y
  | .real x, v => (v.integer?.map x.equalsInt).getD false
  | v, .real x => (v.integer?.map x.equalsInt).getD false
  | v, w =>
    match v.integer?, w.integer? with
    | some m, some n => m == n
    | _, _ => false

/-- Whether two sequences hold equal values in the same order. -/
def equalItems : List Value → List Value → Bool
  | [], [] => true
  | v :: a, w :: b => equals v w && equalItems a b
  | _, _ => false

/-- Whether each field of the first record has an equal field in the second. -/
def equalFields : List (Text × Value) → List (Text × Value) → Bool
  | [], _ => true
  | (name, v) :: rest, b =>
    (match field? b name with
      | some w => equals v w
      | none => false) && equalFields rest b

end

example : literal (.tuple [.text "a", .nothing]) = "('a', None)" := by decide +kernel
example : literal (.record [("k", .list [.integer 1])]) = "\x7b'k': [1]\x7d" := by decide +kernel
example : equals (.truth true) (.integer 1) = true := by decide +kernel

end Value

end BatchFrontier
