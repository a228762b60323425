import BatchFrontier.Fault
import BatchFrontier.Text.Search

/-!
# Responses

A node responds to a request with a result or with an error object, which has a code and a message.
A response that does not follow the protocol is a failure of its own, and the first rule that it
breaks is named.
-/

namespace BatchFrontier.Chain

/-- A response to a request. -/
structure Response where
  /-- The version of the protocol that the response names. -/
  version : Value
  result : Option Value
  error : Option Value
  deriving Repr

/-- An error object that follows the protocol. -/
structure ErrorObject where
  fields : List (Text × Value)
  message : Text
  code : Int
  deriving Repr

namespace ErrorObject

/-- The error object as a value. -/
def toValue (e : ErrorObject) : Value := .record e.fields

/-- The code for a method that the node does not offer. -/
def unavailableCode : Int := -32601

/-- The message for a transaction that the node does not have. -/
def missingMessage : String := "transaction not found"

/-- Whether the message says that the request took too long. -/
def isTimeout (e : ErrorObject) : Bool :=
  Text.occursIn "request timed out".toList (e.message.chars.map Char.toLower)

/-- The kind of failure that an error object stands for. -/
def kind (e : ErrorObject) : Report.Kind :=
  if e.code = unavailableCode then .unavailable
  else if e.isTimeout then .timedOut
  else if e.message = missingMessage then .missingTransaction
  else .rpc

/-- The fault of an error object in general. -/
def fault (e : ErrorObject) : Fault := .refused ⟨e.kind, [.text e.toValue.literal], []⟩

end ErrorObject

namespace Response

/-- A result under the current version of the protocol. -/
def ofResult (v : Value) : Response := ⟨.text "2.0", some v, none⟩

/-- An error object under the current version of the protocol. -/
def ofError (v : Value) : Response := ⟨.text "2.0", none, some v⟩

/-- The response to a method that the node does not know. -/
def unknownMethod (method : String) : Response :=
  ofError (.record [("code", .integer ErrorObject.unavailableCode),
    ("message", .text ("the method " ++ method ++ " is not scripted"))])

/-- The literal text of a result. A record stands under a name, and so do the records in it. -/
def resultLiteral : Value → String
  | .record fields => (Value.record fields).attributeLiteral
  | v => v.literal

/-- The response as it came, with the texts of its members. -/
def members (r : Response) : List (String × String) :=
  ("jsonrpc", r.version.literal) :: ("id", (Value.integer 1).literal) ::
    ((r.result.map fun v => ("result", resultLiteral v)).toList ++
      (r.error.map fun v => ("error", v.literal)).toList)

/-- The literal text of the response as it came. -/
def rawLiteral (r : Response) : String :=
  "\x7b" ++ String.intercalate ", " (r.members.map fun m => Text.quote m.1 ++ ": " ++ m.2) ++ "\x7d"

/-- The fault of a response that breaks a rule of the protocol. -/
def refuse {α : Type} (r : Response) (rule : String) : Except Fault α :=
  .error (.badResponse rule r.rawLiteral)

/-- Whether the response names the current version. -/
def isCurrent (r : Response) : Bool := r.version.equals (.text "2.0")

/-- Reads the fields of an error object. An error about a transaction names the first parameter of
its request, so there must be one. -/
def readError (r : Response) (hasParameter : Bool) (fields : List (Text × Value)) :
    Except Fault ErrorObject :=
  match Value.field? fields "message" with
  | some (.text message) =>
    if message = ErrorObject.missingMessage ∧ hasParameter = false then
      .error (.outOfRange "tuple")
    else
      match (Value.field? fields "code").bind Value.integer? with
      | some code => .ok ⟨fields, message, code⟩
      | none => r.refuse "error[\"code\"] is required and must be an integer value"
  | _ => r.refuse "error[\"message\"] is required and must be a string value"

/-- Reads a response: its result, or its error object. -/
def read (r : Response) (hasParameter : Bool) : Except Fault (Value ⊕ ErrorObject) :=
  if r.isCurrent = false then
    r.refuse "The \"jsonrpc\" field must be present with a value of \"2.0\""
  else
    match r.result, r.error with
    | some _, some _ => r.refuse "Response cannot include both \"error\" and \"result\""
    | none, none => r.refuse "Response must include either \"error\" or \"result\""
    | some v, none => .ok (.inl v)
    | none, some (.record fields) => (r.readError hasParameter fields).map .inr
    | none, some _ =>
      r.refuse
        "response[\"error\"] must be a valid object as defined by the JSON-RPC 2.0 specification"

/-- The result of a response, where an error object has the fault that `faultOf` gives. -/
def outcome (r : Response) (hasParameter : Bool) (faultOf : ErrorObject → Fault) :
    Except Fault Value :=
  match r.read hasParameter with
  | .ok (.inl v) => .ok v
  | .ok (.inr e) => .error (faultOf e)
  | .error f => .error f

/-- A result comes through as it is. -/
theorem outcome_ofResult (v : Value) (hasParameter : Bool) (faultOf : ErrorObject → Fault) :
    (ofResult v).outcome hasParameter faultOf = .ok v := by
  have h : (ofResult v).isCurrent = true := by simp [isCurrent, ofResult, Value.equals]
  simp [outcome, read, h]
  simp [ofResult]

end Response

end BatchFrontier.Chain
