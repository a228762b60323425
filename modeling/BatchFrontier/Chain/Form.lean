import BatchFrontier.Address
import BatchFrontier.Chain.Quantity

/-!
# Forms

What the fields of a block, of its transactions and of its withdrawals have to look like. A value
does not have its form because it is of the wrong kind, or because of what it holds; a record is
examined field by field in its own order, and fields without a form are free. A sequence of pairs
counts as a record. No record may hide the two names by which the names and the fields of a record
are asked for.
-/

namespace BatchFrontier.Chain

/-- What a value has to look like. -/
inductive Form where
  /-- A number; a text is read as one. -/
  | quantity
  /-- Bytes of a width. Zeros in front of more bytes do not count, and fewer are enough if the form
  is flexible. -/
  | bytes (width : Nat) (isFlexible : Bool)
  /-- Bytes of any number. -/
  | anyBytes
  | address
  /-- The key of a place in storage, by its 64 digits, which nobody looks at. -/
  | storageKey
  /-- Nothing, or a value of the form. -/
  | optional (form : Form)
  /-- A sequence of values of the form. It is listed if it has to be a sequence once it was read. -/
  | each (form : Form) (isListed : Bool)
  /-- A record with forms for some of its fields. -/
  | fields (forms : List (String × Form))
  /-- A list of records that each have the first form, or of texts that each have the second. -/
  | items (record text : Form)
  deriving Repr

/-- Why a value does not have its form. -/
inductive Defect where
  /-- It is of the right kind and holds something else. -/
  | content
  /-- It is of the wrong kind. -/
  | kind
  deriving DecidableEq, Repr

namespace Form

/-- Whether a number of bytes fits a width, where `front` holds the bytes that may be left out. -/
def fitsWidth (width : Nat) (isFlexible : Bool) (bs : List UInt8) : Bool :=
  let front :=
    if width ≤ bs.length then bs.take (bs.length - width)
    else bs.take (bs.length - (width - bs.length))
  (isFlexible && decide (bs.length < width)) || front.all (· == 0)

/-- The bytes of a value. -/
def bytesOf (v : Value) : Except Defect (List UInt8) :=
  match v.toBytes with
  | .ok bs => .ok bs
  | .error (.notBytes _) => .error .kind
  | .error _ => .error .content

/-- Whether a value stands for an address. A number does if it has forty hexadecimal digits. -/
def readAddress : Value → Except Defect Unit
  | .text t => if (Address.ofDigits? t.chars).isSome then .ok () else .error .content
  | .bytes bs => if bs.length = 20 then .ok () else .error .content
  | .integer n => if 16 ^ 39 ≤ n ∧ n < 16 ^ 40 then .ok () else .error .content
  | .truth _ => .error .content
  | _ => .error .kind

/-- Whether a text has the length of a key of storage, with the mark or without it. -/
def isStorageKey (t : Text) : Bool := (t.length == 66 && t.beginsWith "0x") || t.length == 64

/-- Whether a value stands for a key of storage. A number does if its hexadecimal text does. -/
def readStorageKey (v : Value) : Except Defect Unit :=
  let holds := match v with
    | .text t => isStorageKey t
    | .bytes bs => bs.length == 32
    | .integer n =>
      let digits := "0x" ++ String.ofList (Nat.toDigits 16 n.natAbs)
      isStorageKey (if n < 0 then "-" ++ digits else digits)
    | _ => false
  if holds then .ok () else .error .content

/-- Whether a value is a record. -/
def isRecord : Value → Bool
  | .record _ => true
  | _ => false

/-- Whether a value is a text, in characters or in bytes. -/
def isText : Value → Bool
  | .text _ | .bytes _ => true
  | _ => false

/-- The values that a value has in sequence: the codes of a text, the names of a record. -/
def itemsOf : Value → Except Defect (List Value)
  | .list vs | .tuple vs => .ok vs
  | .text t => .ok (t.codes.map fun c => .text (.ofCode c))
  | .record members => .ok (members.map fun f => .text f.1)
  | .bytes bs => .ok (bs.map fun b => .integer b.toNat)
  | _ => .error .kind

/-- Whether a value can be a name of a record that is made from pairs. -/
def isName : Value → Bool
  | .record _ => true
  | v => v.isKey

/-- A sequence of two values as a name and a value. -/
def pairOf (v : Value) : Except Defect (Value × Value) := do
  match ← itemsOf v with
  | [name, value] => if isName name then .ok (name, value) else .error .kind
  | _ => .error .content

/-- The members of a record that is made from pairs, of which those whose names are texts count. A
name that comes again keeps its place and gets the new value. -/
def membersOf (pairs : List (Value × Value)) : List (Text × Value) :=
  pairs.foldl
    (fun members p =>
      match p.1 with
      | .text name =>
        if (Value.field? members name).isSome then
          members.map fun f => if f.1 == name then (name, p.2) else f
        else members ++ [(name, p.2)]
      | _ => members)
    []

/-- The name by which the names of a record are asked for. -/
def namesField : Text := "keys"

/-- The name by which the fields of a record are asked for. -/
def fieldsField : Text := "items"

/-- The members of a value that stands for a record. -/
def recordOf : Value → Except Defect (List (Text × Value))
  | .record members =>
    if (Value.field? members namesField).isSome then .error .kind else .ok members
  | v => do
    let pairs ← (← itemsOf v).mapM pairOf
    pure (membersOf pairs)

mutual

/-- Whether a record that is not to be asked, because it hides how it is asked, stands somewhere in
a value. -/
def hides : Value → Bool
  | .record members =>
    (Value.field? members namesField).isSome || (Value.field? members fieldsField).isSome ||
      hidesAmongFields members
  | .list vs | .tuple vs => hidesAmong vs
  | _ => false

/-- Whether one of some values hides how it is asked. -/
def hidesAmong : List Value → Bool
  | [] => false
  | v :: rest => hides v || hidesAmong rest

/-- Whether one of some fields hides how it is asked. -/
def hidesAmongFields : List (Text × Value) → Bool
  | [] => false
  | (_, v) :: rest => hides v || hidesAmongFields rest

end

/-- Checks that the records in a record can be asked for their fields. -/
def checkNested : Value → Except Defect Unit
  | .record members => if hidesAmongFields members then .error .kind else .ok ()
  | _ => .ok ()

/-- Whether a value of a form is read as a pair. -/
def isPair : Form → Value → Bool
  | .bytes width _, v => ((bytesOf v).map fun bs => min bs.length width == 2).toOption.getD false
  | _, _ => false

mutual

/-- Checks that a value has a form. In the place of a sequence nobody looks into a text. -/
def check : Form → Value → Except Defect Unit
  | .quantity, v =>
    match Chain.quantity v with
    | .ok _ => .ok ()
    | .error _ => .error .content
  | .bytes width isFlexible, v => do
    if fitsWidth width isFlexible (← bytesOf v) then .ok () else .error .content
  | .anyBytes, v => (bytesOf v).map fun _ => ()
  | .address, v => readAddress v
  | .storageKey, v => readStorageKey v
  | .optional _, .nothing => .ok ()
  | .optional form, v => check form v
  | .each form isListed, v =>
    match v with
    | .text _ => .ok ()
    | .truth _ => if isListed then .error .kind else .ok ()
    | .list vs | .tuple vs => vs.forM (check form)
    | .record members => members.forM fun f => do
      check form (.text f.1)
      if isPair form (.text f.1) then .ok () else .error .content
    | v => do
      let vs ← itemsOf v
      vs.forM (check form)
      if vs.isEmpty then .ok () else .error .kind
  | .fields forms, v => do
    let members ← recordOf v
    members.forM fun f => checkField forms f.1 f.2
    checkNested v
  | .items record text, v =>
    match v with
    | .list vs | .tuple vs =>
      if vs.all isRecord then vs.forM (check record)
      else if vs.all isText then vs.forM (check text)
      else .error .content
    | _ => .error .content

/-- Checks that the value of a field has the form of the field, if there is one. -/
def checkField : List (String × Form) → Text → Value → Except Defect Unit
  | [], _, _ => .ok ()
  | (name, form) :: rest, key, v => if name = key then check form v else checkField rest key v

end

end Form

end BatchFrontier.Chain
