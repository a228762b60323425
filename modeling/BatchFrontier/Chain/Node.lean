import BatchFrontier.Chain.Block
import BatchFrontier.Chain.Contract
import BatchFrontier.Chain.Refusal
import BatchFrontier.Traced

/-!
# Nodes

A node responds to requests by method, and to calls of contracts by the address and the first bytes
of the call, unless the transport fails. Here are the readings of its responses: what counts as a
number, as a block, and as the answer of a function.
-/

namespace BatchFrontier.Chain

/-- What comes back from a node. -/
inductive Reply where
  | response (r : Response)
  /-- A failure on the way. -/
  | raised (fault : Fault)
  deriving Repr

/-- The reply to calls of a contract whose data begin in a given way. -/
structure CallRule where
  address : Text
  data : Text
  reply : Reply
  deriving Repr

/-- A node, by its replies. -/
structure Node where
  replies : List (String × Reply)
  calls : List CallRule
  deriving Repr

namespace Reply

/-- The result of a reply, where an error object has the fault that `faultOf` gives. -/
def outcome (hasParameter : Bool) (faultOf : ErrorObject → Fault) : Reply → Except Fault Value
  | .response r => r.outcome hasParameter faultOf
  | .raised f => .error f

end Reply

namespace Node

/-- The reply to a method. -/
def reply (n : Node) (method : String) : Reply :=
  match n.replies.find? fun r => r.1 == method with
  | some r => r.2
  | none => .response (.unknownMethod method)

/-- The reply to a call. -/
def callReply (n : Node) (address : Address) (data : List UInt8) : Reply :=
  let matching (r : CallRule) : Bool :=
    r.address.chars.map Char.toLower == address.text.toList.map Char.toLower &&
      Text.beginsWith (Hex.writeMarked data) r.data
  match n.calls.find? matching with
  | some r => r.reply
  | none => .response (.unknownMethod "eth_call")

/-- Whether a node that failed in this way is simply not there. -/
def isTransportFault : Fault → Bool
  | .reported _ r => [.system, .blocked, .document].contains r.kind
  | _ => false

/-- Asks the node by a method. -/
def ask (n : Node) (method : String) : Traced Reply := do
  Traced.emit (.asked method)
  pure (n.reply method)

/-- The methods that take a parameter. -/
def methodsWithParameter : List String := ["eth_getBlockByNumber", "eth_getCode"]

/-- The result of a method. -/
def result (n : Node) (method : String) : Traced Value := do
  let reply ← n.ask method
  reply.outcome (methodsWithParameter.contains method) ErrorObject.fault

/-- Whether the node is there and speaks the protocol; other failures pass through. -/
def isReady (n : Node) : Traced Bool := do
  match ← n.ask "web3_clientVersion" with
  | .response r => pure (r.error.isNone && r.isCurrent)
  | .raised f => if isTransportFault f then pure false else Traced.fail f

/-- The quantity that a method results in. -/
def quantityOf (n : Node) (method : String) : Traced Value := do
  let v ← n.result method
  quantity v

/-- The number that a method results in. -/
def number (n : Node) (method : String) : Traced Int := do
  (← n.quantityOf method).toInteger

/-- The method that gives the id of the chain. -/
def chainIdMethod : String := "eth_chainId"

/-- The id of the chain. -/
def chainId (n : Node) : Traced Int := n.number chainIdMethod

/-- The number of the last block. -/
def blockNumber (n : Node) : Traced Int := n.number "eth_blockNumber"

/-- The last block. -/
def latestBlock (n : Node) : Traced Value := do
  let v ← n.result "eth_getBlockByNumber"
  Block.read v

/-- Whether bytes stand for no code at all. -/
def isEmptyCode (bs : List UInt8) : Bool := bs == [] || bs == [0x30, 0x78]

/-- The fault of an answer of a function that cannot be read. -/
def badAnswer (f : Function) (bs : List UInt8) : Fault :=
  .badAnswer f.signature bs f.outputTypes

/-- Fails with why an answer of a function cannot be read. An empty answer is put down to missing
code, which the node is asked for. -/
def failUnread (n : Node) (f : Function) (bs : List UInt8) : Traced Value :=
  if isEmptyCode bs then do
    let v ← n.result "eth_getCode"
    let code ← v.toBytes
    Traced.fail (if isEmptyCode code then .emptyAnswer else badAnswer f bs)
  else Traced.fail (badAnswer f bs)

/-- The result of a call to a contract. The node has to tell its chain before, whatever chain that
is. -/
def callResult (n : Node) (address : Address) (data : List UInt8) : Traced Value := do
  let _ ← n.quantityOf chainIdMethod
  Traced.emit (.requested address.text data)
  (n.callReply address data).outcome true (Refusal.callFault address)

/-- Sends a call to a contract. -/
def send (n : Node) (address : Address) (data : List UInt8) : Traced (List UInt8) :=
  (n.callResult address data).resume fun r =>
    match r with
    | .ok v => Traced.ofResult v.toBytes
    | .error f => Traced.fail (Refusal.raisedFault address f)

/-- Calls a function of a contract and reads its answer. -/
def call (n : Node) (address : Address) (f : Function) (arguments : List Value) :
    Traced Value := do
  let data ← f.callData arguments
  let answer ← n.send address data
  match f.answer? answer with
  | some v => pure v
  | none => n.failUnread f answer

end Node

end BatchFrontier.Chain
