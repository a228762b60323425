import BatchFrontier.Authorization
import BatchFrontier.Chain.Contract
import BatchFrontier.Proof
import BatchFrontier.Revert
import BatchFrontier.Root

/-!
# Calls that verify batches

The call by which the trusted aggregator has a range of batches verified: a final proof, the two
roots it commits to, and the address that receives the reward. The call is built and never sent. Its
parts are examined in a fixed order, and a revert among the failures of the last step is recognised.
-/

namespace BatchFrontier

/-- A call that nobody has signed. -/
structure UnsignedCall where
  /-- The address of the contract. -/
  recipient : Value
  data : List UInt8
  deriving Repr

/-- A final proof with the roots that it commits to, as the prover hands them over. -/
structure ProofInputs where
  proof : Value
  exitRoot : Value
  stateRoot : Value
  deriving Repr

/-- A range of batches to verify, with what is needed to do so. -/
structure Verification where
  last : Value
  new : Value
  inputs : ProofInputs
  beneficiary : Value
  deriving Repr

/-- The manager's side of a call: the function that shapes a transaction from arguments, if the
manager has it. -/
structure Manager where
  verify? : Option (List Value → TransactionFields → Traced Value)

/-- The manager at an address. The shaped transaction does not depend on the sender. -/
def Manager.ofAddress (address : Address) : Manager where
  verify? := some fun arguments _ => do
    let data ← Chain.verifyBatches.callData arguments
    pure (.record [("data", .text (Hex.writeMarked data)), ("to", .text address.text)])

/-- A manager that answers as told in advance. -/
def Manager.ofOutcome (outcome? : Option (Except Fault Value)) : Manager where
  verify? := outcome?.map fun outcome arguments fields =>
    ⟨[.called "manager" Chain.verifyBatches.name arguments, .shaped fields], outcome⟩

/-- Builds calls for one rollup. -/
structure Builder where
  manager : Manager
  rollup : Value
  /-- The id of the chain that the manager is on. -/
  chain : Value

namespace Builder

/-- The number of the pending state that a call names; none is pending. -/
def pendingState : Nat := 0

/-- The authorization of a call, with what a failure means for it. -/
def authorize (chain : Value) (key : Except Fault Address) : Except Fault Authorization :=
  match Authorization.create chain key with
  | .error f => .error (if Authorization.isRefusal f then .noAuthorization f else f)
  | .ok a => .ok a

/-- The line about a proof that cannot be read. -/
def proofLine (f : Fault) (proof : Value) : Text :=
  "error converting proof. Error: " ++ f.message ++ ", Proof: " ++ proof.shown

/-- Reads the proof; a text that is none is logged. -/
def readProof (proof : Value) : Traced Proof :=
  match Proof.ofValue proof with
  | .ok p => pure p
  | .error (.mistyped kind) => Traced.fail (.mistyped kind)
  | .error f => do
    Traced.log .error .calldata (proofLine f proof)
    Traced.fail f

/-- Replaces a fault that is recognised as a revert. -/
def recogniseRevert {α : Type} (x : Traced α) : Traced α :=
  x.resume fun
    | .ok a => pure a
    | .error f => Traced.fail (if f.isStop then f else (Revert.recognise? f).getD f)

/-- The arguments of the call in their order. -/
def arguments (rollup last new : Value) (exitRoot stateRoot : Word) (beneficiary : Address)
    (proof : Proof) : List Value :=
  [rollup, .integer pendingState, last, new, .bytes exitRoot.bytes, .bytes stateRoot.bytes,
   .text beneficiary.text, .list (proof.words.map fun w => .bytes w.bytes)]

/-- Shapes the transaction. -/
def shape (b : Builder) (v : Verification) (auth : Authorization) (exitRoot stateRoot : Word)
    (proof : Proof) : Traced Value :=
  match b.manager.verify? with
  | none => Traced.fail (.missingFunction Chain.verifyBatches.name)
  | some verify => do
    let beneficiary ← Address.ofValue v.beneficiary
    verify (arguments b.rollup v.last v.new exitRoot stateRoot beneficiary proof) auth.fields

/-- The call of a shaped transaction. -/
def callOf (transaction : Value) : Except Fault UnsignedCall := do
  let recipient ← transaction.named "to"
  let data ← transaction.named "data"
  pure ⟨recipient, ← data.toBytes⟩

/-- Builds a call, with the key drawn for it. -/
def build (b : Builder) (key : Except Fault Address) (v : Verification) :
    Traced UnsignedCall := do
  let auth ← authorize b.chain key
  let exitRoot ← Root.ofValue "newLocalExitRoot" v.inputs.exitRoot
  let stateRoot ← Root.ofValue "newStateRoot" v.inputs.stateRoot
  let proof ← readProof v.inputs.proof
  let transaction ← recogniseRevert (b.shape v auth exitRoot stateRoot proof)
  callOf transaction

end Builder

end BatchFrontier
