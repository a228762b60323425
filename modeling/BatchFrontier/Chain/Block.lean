import BatchFrontier.Chain.Form

/-!
# Blocks

A block comes as a record. Its fields are checked in their own order, after the one field that tells
whether the chain is of another kind, and its number is read.
-/

namespace BatchFrontier.Chain

/-- The forms of the fields of an account that a transaction names beforehand. -/
def accessForm : Form :=
  .fields [("address", .address), ("storageKeys", .each .storageKey true)]

/-- The forms of the fields by which an account lets a contract act for it. -/
def authorizationForm : Form :=
  .fields
    [("chainId", .quantity), ("address", .address), ("nonce", .quantity), ("yParity", .quantity),
     ("r", .bytes 32 true), ("s", .bytes 32 true)]

/-- The forms of the fields of a transaction. -/
def transactionForm : Form :=
  .fields
    [("blockHash", .optional (.bytes 32 false)), ("blockNumber", .optional .quantity),
     ("transactionIndex", .optional .quantity), ("nonce", .quantity), ("gas", .quantity),
     ("gasPrice", .quantity), ("maxFeePerGas", .quantity), ("maxPriorityFeePerGas", .quantity),
     ("value", .quantity), ("from", .address), ("publicKey", .optional (.bytes 64 false)),
     ("r", .optional (.bytes 32 true)), ("raw", .anyBytes), ("s", .optional (.bytes 32 true)),
     ("hash", .bytes 32 false), ("v", .optional .quantity), ("yParity", .optional .quantity),
     ("standardV", .optional .quantity), ("type", .optional .quantity),
     ("chainId", .optional .quantity),
     ("accessList", .optional (.each accessForm false)), ("input", .anyBytes),
     ("data", .anyBytes), ("maxFeePerBlobGas", .quantity),
     ("blobVersionedHashes", .optional (.each (.bytes 32 false) false)),
     ("authorizationList", .optional (.each authorizationForm false))]

/-- The forms of the fields of a withdrawal. -/
def withdrawalForm : Form :=
  .fields
    [("index", .quantity), ("validatorIndex", .quantity), ("address", .address),
     ("amount", .quantity)]

/-- The forms of the fields of a block. -/
def blockForms : List (String × Form) :=
  [("baseFeePerGas", .quantity), ("extraData", .optional (.bytes 32 true)),
   ("gasLimit", .quantity), ("gasUsed", .quantity), ("size", .quantity), ("timestamp", .quantity),
   ("hash", .optional (.bytes 32 false)), ("logsBloom", .optional (.bytes 256 true)),
   ("miner", .optional .address), ("mixHash", .optional (.bytes 32 false)),
   ("nonce", .optional (.bytes 8 true)), ("number", .optional .quantity),
   ("parentHash", .optional (.bytes 32 false)), ("sha3Uncles", .optional (.bytes 32 false)),
   ("uncles", .each (.bytes 32 false) true), ("difficulty", .quantity),
   ("receiptsRoot", .optional (.bytes 32 false)), ("stateRoot", .optional (.bytes 32 false)),
   ("totalDifficulty", .quantity), ("transactions", .items transactionForm (.bytes 32 false)),
   ("transactionsRoot", .optional (.bytes 32 false)),
   ("withdrawals", .optional (.each withdrawalForm true)),
   ("withdrawalsRoot", .optional (.bytes 32 false)),
   ("blobGasUsed", .quantity), ("excessBlobGas", .quantity),
   ("parentBeaconBlockRoot", .optional (.bytes 32 false)),
   ("requestsHash", .optional (.bytes 32 false))]

namespace Block

/-- The fault of a field that does not have its form. -/
def fieldFault (name : Text) (v : Value) : Defect → Fault
  | .content => .blockField v.attributeLiteral name
  | .kind => .blockFieldKind v.attributeLiteral name

/-- The number of bytes that a block has room for besides its fixed fields. -/
def extraLimit : Nat := 32

/-- Checks that the extra data of a block are not too long. Values that stand for no bytes are left
to the check of all fields. -/
def checkExtra (fields : List (Text × Value)) : Except Fault Unit :=
  match Value.field? fields "extraData" with
  | some v =>
    match v.toBytes with
    | .ok bs => if extraLimit < bs.length then .error (.extraData bs) else .ok ()
    | .error (.notBytes _) => .ok ()
    | .error _ => .error (.blockField v.literal "extraData")
  | none => .ok ()

/-- Checks all fields of a block. -/
def checkFields (fields : List (Text × Value)) : Except Fault Unit :=
  fields.forM fun f =>
    match Form.checkField blockForms f.1 f.2 with
    | .ok () => .ok ()
    | .error d => .error (fieldFault f.1 f.2 d)

/-- A field with its number read, if it is the number of the block. -/
def readField (f : Text × Value) : Except Fault (Text × Value) :=
  if f.1 = "number" then (quantity f.2).map fun n => (f.1, n) else .ok f

/-- The fault of a node without a last block. -/
def missing : Fault := .refused ⟨.missingBlock, [.text "Block with id: 'latest' not found."], []⟩

/-- Checks that a block does not hide a name by which it is asked. -/
def checkShown (fields : List (Text × Value)) (name : Text) : Except Fault Unit :=
  if (Value.field? fields name).isSome then .error (.mistyped (Value.record fields).kind)
  else .ok ()

/-- Checks that the records in a block do not hide how they are asked. -/
def checkNested (fields : List (Text × Value)) : Except Fault Unit :=
  if Form.hidesAmongFields fields then .error (.mistyped (Value.record fields).kind) else .ok ()

/-- Reads a block. -/
def read : Value → Except Fault Value
  | .nothing => .error missing
  | .record fields => do
    checkShown fields Form.fieldsField
    checkExtra fields
    checkShown fields Form.namesField
    checkFields fields
    checkNested fields
    let fields ← fields.mapM readField
    pure (.record fields)
  | v => .error (.notRecord v.kind)

end Block

end BatchFrontier.Chain
