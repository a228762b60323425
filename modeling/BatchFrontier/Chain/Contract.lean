import BatchFrontier.Abi.Layout
import BatchFrontier.Abi.Selector

/-!
# The functions of the contracts

The two generations of contracts that know a rollup: the contract of a single rollup, and the
manager of many rollups. A function is called with its selector and its encoded arguments.
-/

namespace BatchFrontier.Chain

open Abi (Kind)

/-- A function of a contract. -/
structure Function where
  name : String
  inputs : List Kind
  outputs : List Kind
  /-- Whether the outputs are the fields of a single record. -/
  isRecord : Bool := false
  deriving Repr

namespace Function

/-- The name and the parameter types. -/
def signature (f : Function) : String :=
  f.name ++ "(" ++ String.intercalate "," (f.inputs.map Kind.name) ++ ")"

/-- The types of the outputs, as a failed reading shows them. -/
def outputTypes (f : Function) : String :=
  let names := f.outputs.map Kind.name
  let shown := if f.isRecord then ["(" ++ String.intercalate "," names ++ ")"] else names
  (Value.list (shown.map fun (name : String) => .text name)).literal

/-- The bytes that call the function, if the arguments fit. -/
def callData? (f : Function) (arguments : List Value) : Option (List UInt8) :=
  (Abi.encodeAll f.inputs arguments).map (Abi.selector f.signature ++ ·)

/-- The kind of a single value as it is reported; addresses have a kind of their own. -/
def singleKind : Value → String
  | .text t => if (Address.ofDigits? t.chars).any (·.text == t) then "address" else "str"
  | .bytes bs => if bs.length = 20 then "address" else "bytes"
  | v => v.kind

mutual

/-- The kind of an argument as it is reported. A sequence is reported by the kinds of its items. -/
def argumentKind : Value → String
  | .list items | .tuple items => String.intercalate "," (itemKinds items)
  | v => singleKind v

/-- The kinds of the items of a sequence, where a sequence among them stands in brackets. -/
def itemKinds : List Value → List String
  | [] => []
  | v :: rest =>
    (match v with
      | .list _ | .tuple _ => "(" ++ argumentKind v ++ ")"
      | _ => argumentKind v) :: itemKinds rest

end

/-- How the arguments of a call fail to fit. -/
def mismatch (f : Function) (arguments : List Value) : Mismatch where
  function := f.name
  parameters := f.inputs.map Kind.name
  arguments := List.zipWith (fun k v => ⟨v, argumentKind v, k.name, (Abi.encode k v).isSome⟩)
    f.inputs arguments

/-- The bytes that call the function, or how the arguments, which are shown then, fail to fit. -/
def callData (f : Function) (arguments : List Value) : Except Fault (List UInt8) :=
  match f.callData? arguments with
  | some bs => .ok bs
  | none => .error (.showing (fun _ => .mismatch (f.mismatch arguments)) (.list arguments))

/-- Arguments that do not fit are shown. -/
theorem callData_of_none {f : Function} {arguments : List Value}
    (h : f.callData? arguments = none) : f.callData arguments =
      .error (.showing (fun _ => .mismatch (f.mismatch arguments)) (.list arguments)) := by
  rw [callData, h]

/-- The value of a function's answer: its single output, or all of them as a tuple. -/
def answer? (f : Function) (bs : List UInt8) : Option Value :=
  match Abi.decodeAll f.outputs bs with
  | some [v] => some v
  | some vs => some (.tuple vs)
  | none => none

end Function

/-- The fields of a rollup in the manager, in the order in which they are returned. -/
def rollupFields : List (String × Kind) :=
  [("rollupContract", .address), ("chainID", .uint 64), ("verifier", .address),
   ("forkID", .uint 64), ("lastLocalExitRoot", .bytes32), ("lastBatchSequenced", .uint 64),
   ("lastVerifiedBatch", .uint 64), ("lastPendingState", .uint 64),
   ("lastPendingStateConsolidated", .uint 64), ("lastVerifiedBatchBeforeUpgrade", .uint 64),
   ("rollupTypeID", .uint 64), ("rollupCompatibilityID", .uint 8)]

/-- The manager's record of a rollup. -/
def rollupData : Function :=
  ⟨"rollupIDToRollupData", [.uint 32], rollupFields.map (·.2), false⟩

/-- The manager's record of a sequenced batch. -/
def sequencedBatch : Function :=
  ⟨"getRollupSequencedBatches", [.uint 32, .uint 64], [.bytes32, .uint 64, .uint 64], true⟩

/-- The verification of a range of batches by the trusted aggregator. -/
def verifyBatches : Function :=
  ⟨"verifyBatchesTrustedAggregator",
    [.uint 32, .uint 64, .uint 64, .uint 64, .bytes32, .bytes32, .address, .words 24], [], false⟩

/-- The last verified batch of the contract of a single rollup. -/
def lastVerifiedBatch : Function := ⟨"lastVerifiedBatch", [], [.uint 64], false⟩

/-- The chain id of the contract of a single rollup. -/
def chainId : Function := ⟨"chainID", [], [.uint 64], false⟩

/-- The place of a field in the manager's record of a rollup. -/
def fieldIndex? (name : Text) : Option Nat := rollupFields.findIdx? (·.1 == name)

/-- A field of the manager's record, which is a sequence in the manager's order or a record with
names. -/
def rollupField (data name : Value) : Except Fault Value :=
  match data with
  | .record fields =>
    if name.isKey = false then .error (.mistyped name.kind)
    else
      match name with
      | .text t =>
        match Value.field? fields t with
        | some v => .ok v
        | none => .error (.missingKey name)
      | _ => .error (.missingKey name)
  | data =>
    match name with
    | .text t =>
      match fieldIndex? t with
      | some i => data.item i
      | none => .error .unknownField
    | _ => .error .unknownField

end BatchFrontier.Chain
