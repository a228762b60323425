import BatchFrontier.Value

/-!
# Reports of failures elsewhere

A node, a contract or a source of randomness may fail for reasons of its own. Such a failure is a
report: its kind, the values it was made from and the attributes set on it later. The kind decides
how the report reads as text and which attributes it has from the start.
-/

namespace BatchFrontier

/-- The kinds of reports, told apart by their texts, their attributes and who handles them. -/
inductive Report.Kind where
  /-- A failure that no one expects. -/
  | plain
  /-- A request to stop, which is no failure: nothing that handles failures holds it up. -/
  | stop
  /-- A value of the right kind that cannot be used. -/
  | value
  /-- A key that is not there. -/
  | key
  /-- A failure of the operating system or of the transport. -/
  | system
  /-- A failure of the system that may tell how much was done before it. -/
  | blocked
  /-- A document that cannot be read, from its complaint, the document and a position. -/
  | document
  /-- A failure of the database. -/
  | storage
  /-- A text that does not follow a grammar, with its place. -/
  | grammar
  /-- A part of the program that is not there. -/
  | absent
  /-- Bytes that are no text. -/
  | undecodable
  /-- A text that cannot be written as bytes. -/
  | unencodable
  /-- A text that cannot be turned into another. -/
  | untranslatable
  /-- Several failures under one message. -/
  | group
  /-- A failure named by this library, without fields. -/
  | library
  /-- A proof of the wrong length. -/
  | proofLength
  /-- A proof with a word that is not hexadecimal. -/
  | proofWord
  /-- A revert with its reason. -/
  | reverted
  /-- A failure of the chain's client. -/
  | chain
  /-- A task of the chain's client that does not run. -/
  | task
  /-- An error object in a node's answer. -/
  | rpc
  /-- A method that the node does not offer. -/
  | unavailable
  /-- A request that took the node too long. -/
  | timedOut
  /-- A block that the node does not have. -/
  | missingBlock
  /-- A transaction that the node does not have. -/
  | missingTransaction
  /-- A call that reverted, with a message and data. -/
  | logic
  /-- A call that reverted with an error declared by the contract. -/
  | custom
  /-- A call that ended in a panic of the contract. -/
  | panic
  /-- A call that asks for data from elsewhere. -/
  | offchain
  deriving DecidableEq, Repr

/-- A failure as it was reported. -/
structure Report where
  kind : Report.Kind
  /-- The values the report was made from. -/
  arguments : List Value
  /-- The attributes set later. -/
  attributes : List (Text × Value) := []
  deriving Repr

namespace Report

/-- The text of a number of values: nothing, the value alone, or all of them as a tuple. -/
def argumentsText : List Value → Text
  | [] => ""
  | [v] => v.shown
  | vs => (Value.tuple vs).literal

/-- The value at a place, or nothing. -/
def argument (r : Report) (i : Nat) : Value := (r.arguments[i]?).getD .nothing

/-- The first value, or nothing. -/
def first (r : Report) : Value := r.argument 0

/-- The second value, or nothing. -/
def second (r : Report) : Value := r.argument 1

/-- An attribute that was set later. -/
def later? (r : Report) (name : String) : Option Value := Value.field? r.attributes name

/-- A failure of the system by its number, its description and its files. -/
structure SystemParts where
  number : Option Value
  what : Option Value
  file : Option Value
  other : Option Value

/-- A value, unless it is nothing. -/
def given? : Option Value → Option Value
  | some .nothing => none
  | v => v

/-- Whether a value is a number. -/
def isNumber : Value → Bool
  | .integer _ | .truth _ | .real _ => true
  | _ => false

/-- The file that a failure of the system names. Where the failure may tell how much was done, a
number in its place is no file. -/
def file? (r : Report) : Option Value :=
  match given? r.arguments[2]? with
  | some v => if r.kind = .blocked ∧ isNumber v then none else some v
  | none => none

/-- Whether the values of a failure of the system have a meaning each. A complaint about a document
is a single value. -/
def isStructured (r : Report) : Bool :=
  r.kind != .document && decide (2 ≤ r.arguments.length) && decide (r.arguments.length ≤ 5)

/-- The parts of a failure of the system; those set later win. -/
def systemParts (r : Report) : SystemParts :=
  let file := if r.isStructured then r.file? else none
  let part (name : String) (v : Option Value) : Option Value :=
    (r.later? name).orElse fun _ => if r.isStructured then v else none
  ⟨part "errno" r.arguments[0]?, part "strerror" r.arguments[1]?, part "filename" file,
    part "filename2" (if file.isSome then given? r.arguments[4]? else none)⟩

/-- The message of a task that does not run. -/
def taskMessage (r : Report) : Value :=
  match r.second with
  | .nothing => .text ("Task " ++ r.first.shown ++ " is not running.")
  | v => v

/-- How many newlines stand before a position, and how far the position is from the last of them. -/
def placeIn (cs : List Char) (position : Nat) : Nat × Nat :=
  let before := cs.take position
  let line := before.reverse.takeWhile (· != '\n')
  (before.count '\n', position - (before.length - line.length))

/-- The complaint about a document with the line and the column of a position. -/
def documentMessage (r : Report) : Text :=
  match r.second, r.argument 2 with
  | .text t, .integer n =>
    let (lines, column) := placeIn t.chars n.toNat
    r.first.shown ++ ": line " ++ Text.natural (lines + 1) ++ " column " ++
      Text.natural (column + 1) ++ " (char " ++ Text.integer n ++ ")"
  | _, _ => r.first.shown

/-- The values that the report shows when it is made. -/
def shownArguments (r : Report) : List Value :=
  match r.kind with
  | .system | .blocked =>
    if r.isStructured && r.file?.isSome then r.arguments.take 2 else r.arguments
  | .document => [.text r.documentMessage]
  | .proofLength => [.text ("invalid proof length. Length: " ++ r.first.shown)]
  | .proofWord =>
    [.text ("failed to decode proof word " ++ r.first.shown ++ ": " ++ r.second.literal ++
      " is not 32 bytes of hex")]
  | .reverted => [.text ("execution reverted: " ++ r.first.shown)]
  | .task => [r.taskMessage]
  | .rpc | .unavailable | .timedOut | .missingBlock | .missingTransaction => [r.first]
  | .logic | .custom | .panic => [r.first, r.second]
  | .offchain => [.nothing, r.second]
  | _ => r.arguments

/-- The values that the report shows. -/
def parts (r : Report) : List Value :=
  match r.later? "args" with
  | some v => v.members
  | none => r.shownArguments

/-- The attribute that a report has by its kind. -/
def ownAttribute? (r : Report) (name : String) : Option Value :=
  match r.kind, name with
  | .logic, "message" | .custom, "message" | .panic, "message" => some r.first
  | .logic, "data" | .custom, "data" | .panic, "data" | .offchain, "data" => some r.second
  | .offchain, "message" => some .nothing
  | .rpc, "message" | .unavailable, "message" | .timedOut, "message" | .missingBlock, "message"
  | .missingTransaction, "message" | .group, "message" => some r.first
  | .task, "message" => some r.taskMessage
  | .proofLength, "length" | .proofWord, "index" | .reverted, "reason" => some r.first
  | _, _ => none

/-- An attribute of a report; one set later wins. -/
def attribute? (r : Report) (name : String) : Option Value :=
  (r.later? name).orElse fun _ => r.ownAttribute? name

/-- An attribute that stands at a place among the values, unless it was set later. -/
def placed (r : Report) (name : String) (i : Nat) : Value :=
  (r.later? name).getD (r.argument i)

/-- The text of a failure of the system. -/
def systemText (r : Report) : Text :=
  let p := r.systemParts
  let head := "[Errno " ++ (p.number.getD .nothing).shown ++ "] " ++ (p.what.getD .nothing).shown
  match p.file, p.other with
  | some file, some other => head ++ ": " ++ file.literal ++ " -> " ++ other.literal
  | some file, none => head ++ ": " ++ file.literal
  | none, _ => if p.number.isSome && p.what.isSome then head else argumentsText r.parts

/-- What follows the last slash of a path. -/
def lastName (path : Text) : Text :=
  ⟨(path.codes.reverse.takeWhile (· != .char '/')).reverse⟩

/-- The place of a text that does not follow a grammar: values for the file, the line and more. -/
def placeValues (r : Report) : List Value :=
  match r.arguments with
  | [_, v] => v.members
  | _ => []

/-- An attribute of the place of a text. -/
def placeValue (r : Report) (name : String) (i : Nat) : Value :=
  (r.later? name).getD ((r.placeValues[i]?).getD .nothing)

/-- The number of a line as it is shown: one beyond 64 bits is shown as -1. -/
def lineText (n : Int) : String :=
  if -(2 : Int) ^ 63 ≤ n ∧ n < (2 : Int) ^ 63 then Text.integer n else "-1"

/-- The text of a failure to follow a grammar. -/
def grammarText (r : Report) : Text :=
  let what := (r.placed "msg" 0).shown
  match r.placeValue "filename" 0, r.placeValue "lineno" 1 with
  | .text f, .integer n => what ++ " (" ++ lastName f ++ ", line " ++ lineText n ++ ")"
  | .text f, _ => what ++ " (" ++ lastName f ++ ")"
  | _, .integer n => what ++ " (line " ++ lineText n ++ ")"
  | _, _ => what

/-- A range of positions, given by its first and the one after its last. -/
def rangeText (first stop : Int) : String :=
  Text.integer first ++ "-" ++ Text.integer (stop - 1)

/-- The integer that a value is, or zero. -/
def whole (v : Value) : Int := v.integer?.getD 0

/-- The member of a sequence at the first position of a range of one, if it is there. -/
def single? {α : Type} (items : List α) (first stop : Int) : Option α :=
  if stop = first + 1 ∧ 0 ≤ first then items[first.toNat]? else none

/-- The text of bytes that are no text. -/
def undecodableText (r : Report) : Text :=
  let first := whole (r.placed "start" 2)
  let stop := whole (r.placed "end" 3)
  let bytes := match r.placed "object" 1 with
    | .bytes bs => bs
    | _ => []
  let place := match single? bytes first stop with
    | some b =>
      "byte 0x" ++ String.ofList (Text.hexOfWidth 2 b.toNat) ++ " in position " ++
        Text.integer first
    | none => "bytes in position " ++ rangeText first stop
  "'" ++ (r.placed "encoding" 0).shown ++ "' codec can't decode " ++ place ++ ": " ++
    (r.placed "reason" 4).shown

/-- The codes in a range of a text, in words. -/
def codePlace (object : Value) (first stop : Int) : String :=
  let cs := match object with
    | .text t => t.codes
    | _ => []
  match single? cs first stop with
  | some c =>
    "character '" ++ String.ofList (Text.codeEscape c.toNat) ++ "' in position " ++
      Text.integer first
  | none => "characters in position " ++ rangeText first stop

/-- The text of a text that cannot be written as bytes. -/
def unencodableText (r : Report) : Text :=
  "'" ++ (r.placed "encoding" 0).shown ++ "' codec can't encode " ++
    codePlace (r.placed "object" 1) (whole (r.placed "start" 2)) (whole (r.placed "end" 3)) ++
    ": " ++ (r.placed "reason" 4).shown

/-- The text of a text that cannot be turned into another. -/
def untranslatableText (r : Report) : Text :=
  "can't translate " ++
    codePlace (r.placed "object" 0) (whole (r.placed "start" 1)) (whole (r.placed "end" 2)) ++
    ": " ++ (r.placed "reason" 3).shown

/-- The text of several failures. -/
def groupText (r : Report) : Text :=
  let count := r.second.members.length
  r.first.shown ++ " (" ++ Text.natural count ++ " sub-exception" ++
    (if count = 1 then "" else "s") ++ ")"

/-- The text of a part of the program that is not there: its message, if that is a text. -/
def absentText (r : Report) : Text :=
  let message := (r.later? "msg").getD (match r.arguments with
    | [v] => v
    | _ => .nothing)
  match message with
  | .text t => t
  | _ => argumentsText r.parts

/-- The text of a report. -/
def text (r : Report) : Text :=
  match r.kind with
  | .key =>
    match r.parts with
    | [v] => v.literal
    | vs => argumentsText vs
  | .system | .blocked | .document => r.systemText
  | .grammar => r.grammarText
  | .absent => r.absentText
  | .undecodable => r.undecodableText
  | .unencodable => r.unencodableText
  | .untranslatable => r.untranslatableText
  | .group => r.groupText
  | _ => argumentsText r.parts

/-- The literal text of a report under the name of its kind. -/
def literal (r : Report) (name : String) : String :=
  match r.parts with
  | [v] => name ++ "(" ++ v.literal ++ ")"
  | vs => name ++ (Value.tuple vs).literal

/-- A report as a value. -/
def toValue (r : Report) (name : String) : Value := .foreign name r.text (r.literal name)

/-- Whether the command line names the failure and ends; any other failure escapes it. -/
def isExpected (r : Report) : Bool :=
  match r.kind with
  | .plain | .stop | .grammar | .absent | .group => false
  | _ => true

example : (Report.mk .system [.integer 2, .text "gone", .text "f"] []).text =
    "[Errno 2] gone: 'f'" := by decide +kernel
example : (Report.mk .logic [.text "m"] []).text = "('m', None)" := by decide +kernel

end Report

end BatchFrontier
