import BatchFrontier.Json.Token

/-!
# Reading JSON

Tokens are read from the front. The arrays and objects that are open are kept in a list, the
innermost first; what may come next follows from the innermost and from the last token. How many may
be open at once can be bounded. A name that occurs twice in an object has the value given last.
-/

namespace BatchFrontier.Json

/-- An array or an object that is open, with what it holds so far, the last first. -/
inductive Open where
  | array (items : List Value)
  | object (fields : List (Text × Value)) (name : Text)
  deriving Repr

/-- What may come next. -/
inductive Stage where
  | value
  /-- A value, or the end of an array that has just begun. -/
  | firstItem
  /-- A name, or the end of an object that has just begun. -/
  | firstName
  | name
  | colon
  /-- A comma, or the end of the innermost. -/
  | separator
  /-- Nothing: the text is complete. -/
  | complete (v : Value)
  deriving Repr

/-- Where the reading stands. -/
structure Reading where
  stage : Stage
  opened : List Open
  deriving Repr

/-- Why the reading ends early. -/
inductive Stop where
  | flaw (flaw : Flaw) (index : Nat)
  | digits (n : Nat)
  | tooNested
  deriving DecidableEq, Repr

namespace Reading

/-- The fields of an object with a value under a name, which keeps its place if it has one. -/
def setField (name : Text) (v : Value) (fields : List (Text × Value)) : List (Text × Value) :=
  if (Value.field? fields name).isSome then
    fields.map fun f => if f.1 == name then (name, v) else f
  else (name, v) :: fields

/-- The reading after a value is complete. -/
def give (v : Value) : List Open → Reading
  | [] => ⟨.complete v, []⟩
  | .array items :: rest => ⟨.separator, .array (v :: items) :: rest⟩
  | .object fields name :: rest => ⟨.separator, .object (setField name v fields) name :: rest⟩

/-- The reading after the innermost array or object ends. -/
def close : List Open → Reading
  | [] => ⟨.value, []⟩
  | .array items :: rest => give (.list items.reverse) rest
  | .object fields _ :: rest => give (.record fields.reverse) rest

/-- The reading with one more array or object open, unless as many as may be open are. -/
def enter (bound : Option Nat) (stage : Stage) (o : Open) (opened : List Open) :
    Except Stop Reading :=
  if bound.any (· ≤ opened.length) then .error .tooNested else .ok ⟨stage, o :: opened⟩

/-- The reading after a token where a value may stand. -/
def startValue (bound : Option Nat) (t : Token) (opened : List Open) : Except Stop Reading :=
  match t.shape with
  | .text s => .ok (give (.text s) opened)
  | .scalar v => .ok (give v opened)
  | .mark '[' => enter bound .firstItem (.array []) opened
  | .mark c => if c.toNat = 0x7B then enter bound .firstName (.object [] "") opened
    else .error (.flaw .value t.index)
  | .badText flaw index => .error (.flaw flaw index)
  | .longNumber n => .error (.digits n)
  | .stray | .finish => .error (.flaw .value t.index)

/-- The reading after a token where a name must stand. -/
def startName (t : Token) (opened : List Open) : Except Stop Reading :=
  match t.shape, opened with
  | .text s, .object fields _ :: rest => .ok ⟨.colon, .object fields s :: rest⟩
  | .badText flaw index, _ => .error (.flaw flaw index)
  | _, _ => .error (.flaw .propertyName t.index)

/-- Whether a token is a mark. -/
def isMark (t : Token) (code : Nat) : Bool :=
  match t.shape with
  | .mark c => c.toNat == code
  | _ => false

/-- The reading after a token that follows a complete value. -/
def afterValue (t : Token) (opened : List Open) : Except Stop Reading :=
  match opened with
  | .array _ :: _ =>
    if isMark t 0x2C then .ok ⟨.value, opened⟩
    else if isMark t 0x5D then .ok (close opened)
    else .error (.flaw .comma t.index)
  | .object .. :: _ =>
    if isMark t 0x2C then .ok ⟨.name, opened⟩
    else if isMark t 0x7D then .ok (close opened)
    else .error (.flaw .comma t.index)
  | [] => .error (.flaw .extraData t.index)

/-- The reading after one more token. -/
def next (bound : Option Nat) (r : Reading) (t : Token) : Except Stop Reading :=
  match r.stage with
  | .value => startValue bound t r.opened
  | .firstItem => if isMark t 0x5D then .ok (close r.opened) else startValue bound t r.opened
  | .firstName => if isMark t 0x7D then .ok (close r.opened) else startName t r.opened
  | .name => startName t r.opened
  | .colon =>
    if isMark t 0x3A then .ok ⟨.value, r.opened⟩ else .error (.flaw .colon t.index)
  | .separator => afterValue t r.opened
  | .complete _ =>
    match t.shape with
    | .finish => .ok r
    | _ => .error (.flaw .extraData t.index)

end Reading

/-- The value of some tokens. -/
def valueOf (bound : Option Nat) (tokens : List Token) : Except Stop Value := do
  let r ← tokens.foldlM (Reading.next bound) ⟨.value, []⟩
  match r.stage with
  | .complete v => .ok v
  | _ => .error (.flaw .value 0)

/-- The value of a text. -/
def read (cs : List Char) (bound : Option Nat := none) : Except BatchFrontier.Fault Value :=
  let faultOf : Stop → BatchFrontier.Fault
    | .flaw flaw index => .json ⟨flaw, .ofIndex cs index⟩
    | .digits n => .integerDigits n
    | .tooNested => .tooNested
  match cs with
  | '\uFEFF' :: _ => .error (faultOf (.flaw .byteOrderMark 0))
  | _ =>
    match valueOf bound (Token.scan cs) with
    | .ok v => .ok v
    | .error stop => .error (faultOf stop)

end BatchFrontier.Json
