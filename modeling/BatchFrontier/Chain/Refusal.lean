import BatchFrontier.Abi.Lookup
import BatchFrontier.Chain.Place
import BatchFrontier.Chain.Quantity
import BatchFrontier.Chain.Response

/-!
# Rejected calls

An error object that answers a call tells by its data how the contract rejected the call: with a
message in words, with a request for data from elsewhere, with a panic, with an error that the
contract declares, or without a word. Where the data do not tell, the code and the message do.
-/

namespace BatchFrontier.Chain

/-- The panics of a contract by the last two digits of their data. -/
def panics : List (String × String) :=
  [("00", "Panic error 0x00: Generic compiler inserted panics."),
   ("01", "Panic error 0x01: Assert evaluates to false."),
   ("11", "Panic error 0x11: Arithmetic operation results in underflow or overflow."),
   ("12", "Panic error 0x12: Division by zero."),
   ("21", "Panic error 0x21: Cannot convert value into an enum type."),
   ("22", "Panic error 0x22: Storage byte array is incorrectly encoded."),
   ("31", "Panic error 0x31: Call to 'pop()' on an empty array."),
   ("32", "Panic error 0x32: Array index is out of bounds."),
   ("41", "Panic error 0x41: Allocation of too much memory or array too large."),
   ("51", "Panic error 0x51: Call to a zero-initialized variable of internal function type.")]

namespace Refusal

/-- The beginning of the data of a panic. -/
def panicMark : String := "0x4e487b71"

/-- The beginning of the data of a plain message. -/
def messageMark : String := "0x08c379a0"

/-- The beginning of the data of a request for data from elsewhere. -/
def lookupMark : String := "0x556f1830"

/-- Whether a text holds the words that name a revert. -/
def namesRevert (t : Text) : Bool := Text.occursIn "execution reverted".toList t.chars

/-- The fault of a call that reverted. -/
def reverted (message : Text) (data : Value) : Fault :=
  .refused ⟨.logic, [.text message, data], []⟩

/-- The fault of a panic with some data. -/
def panicFault (data : Text) : Fault :=
  let code := data.drop (data.length - 2)
  match panics.find? fun p => p.1 == code with
  | some p => .refused ⟨.panic, [.text p.2, .text data], []⟩
  | none => .unknownPanic code

/-- What follows a word at the front of the data of a message that the node has marked. -/
def markedWord : String := "Reverted "

/-- The beginning of marked data with a plain message, up to the word with its length. -/
def markedMessage : String :=
  markedWord ++ messageMark ++ String.ofList (List.replicate 62 '0') ++ "20"

/-- The characters from `start` up to a stop, which counts from the end if it is negative. -/
def between (cs : List Char) (start : Nat) (stop : Int) : List Char :=
  let stop := if stop < 0 then stop + cs.length else stop
  (cs.take stop.toNat).drop start

/-- The digits of the message in marked data. -/
def markedDigits (data : Text) : Except Fault (List Char) :=
  let cs := data.chars
  if data.beginsWith markedMessage then
    let size := markedMessage.length
    let word := (data.drop size).take 64
    match readQuantity? word.chars with
    | some length => .ok (between cs (size + 64) (size + 64 + 2 * length))
    | none => .error (.quantityText (.text word))
  else if data.beginsWith (markedWord ++ "0x") then
    .ok ((cs.drop (markedWord.length + 2)).takeWhile (· != ' '))
  else .ok cs

/-- The fault of a call with marked data. A message that is no text is left out. -/
def markedFault (data : Text) : Fault :=
  match markedDigits data with
  | .error f => f
  | .ok digits =>
    match Hex.readSpaced digits with
    | .error i => .notHexAt i
    | .ok bs =>
      match Utf8.decode bs with
      | .ok cs => reverted ("execution reverted: " ++ Text.ofChars cs) (.text data)
      | .error _ => reverted "execution reverted" (.text data)

/-- How a contract names itself when it asks for data from elsewhere. -/
def asker (address : Address) : Text := (Text.ofString address.text).lowered

/-- The fault of a call to a contract that asks for data from elsewhere by the data of an error.
Only the contract that was called may ask. -/
def lookupFault (address : Address) (data : Text) : Fault :=
  let read : Except Fault Abi.Lookup := do
    Abi.Lookup.ofBytes (← Value.bytesOfText (data.drop lookupMark.length))
  match read with
  | .error f => f
  | .ok l =>
    if l.sender = address then Place.search (asker address) (Hex.writeMarked l.question) l.places
    else .foreignSender

/-- The digits of a text or of bytes in lower case, with a mark; a text has to bring its mark. -/
def markedText : Value → Except Fault Text
  | .bytes bs => .ok (Hex.writeMarked bs)
  | .text t => if t.beginsWith "0x" then .ok t.lowered else .error (.unmarked t)
  | v => .error (.mistyped v.kind)

/-- The fault of a call to a contract that asks for data from elsewhere by a record: who asks, what
is asked and where. -/
def requestFault (address : Address) (request : Value) : Fault :=
  let read : Except Fault Fault := do
    let sender ← markedText (← request.named "sender")
    let question ← markedText (← request.named "callData")
    if sender = asker address then
      let places ← request.named "urls"
      match places.members? with
      | some urls => pure (Place.search sender question (urls.map Value.shown))
      | none => throw (.mistyped places.kind)
    else pure .foreignSender
  match read with
  | .error f => f
  | .ok f => f

/-- The fault of a call to a contract that failed on the way; the failure may itself be a request
for data from elsewhere. -/
def raisedFault (address : Address) : Fault → Fault
  | .reported label r =>
    if r.kind = .offchain then requestFault address ((r.attribute? "payload").getD r.first)
    else .reported label r
  | f => f

/-- The fault that the data of a call tell of. -/
def dataFault? (address : Address) (data : Text) : Option Fault :=
  if data.beginsWith markedWord then some (markedFault data)
  else if data.beginsWith lookupMark then some (lookupFault address data)
  else if data.beginsWith panicMark then some (panicFault data)
  else if 10 ≤ data.length ∧ data.beginsWith messageMark = false then
    some (.refused ⟨.custom, [.text data, .text data], []⟩)
  else none

/-- The fault that the code or the message of a call tells of. -/
def wordFault? (e : ErrorObject) (data : Value) : Option Fault :=
  if e.message = "" then none
  else if e.code = 3 then some (reverted e.message data)
  else if namesRevert e.message then some (reverted "execution reverted" data)
  else none

/-- The fault that tells how a call to the contract at an address was rejected. -/
def callFault? (address : Address) (e : ErrorObject) : Option Fault :=
  match (Value.field? e.fields "data").getD (.text "no data") with
  | .nothing =>
    some (reverted (if e.message.isEmpty then "execution reverted" else e.message) .nothing)
  | .record fields =>
    if e.message = "" then none
    else some (reverted ("execution reverted: " ++ e.message) (.record fields))
  | .text data =>
    (dataFault? address data).orElse fun _ => wordFault? e (.text data)
  | data => wordFault? e data

/-- The fault of an error object that answers a call. -/
def callFault (address : Address) (e : ErrorObject) : Fault :=
  (callFault? address e).getD e.fault

end Refusal

end BatchFrontier.Chain
