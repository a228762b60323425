import BatchFrontier.Resolution
import BatchFrontier.Sources

/-!
# Reading a rollup's state

The manager is asked first for the last verified batch and the contract of the single rollup first
for the chain id; the other contract stands in where the first fails. A chain id of zero is no chain
id. Nothing is remembered from one read to the next.
-/

namespace BatchFrontier

/-- Reads the state of one rollup. -/
structure Reader where
  sources : Sources
  /-- The id of the rollup in the manager. -/
  rollup : Value

namespace Reader

/-- A field of the manager's record of the rollup. -/
def managerField (r : Reader) (name : String) : Traced Value := do
  let data ← r.sources.rollupData r.rollup
  Chain.rollupField data (.text name)

/-- The last verified batch. -/
def latestVerifiedBatch (r : Reader) : Traced Int := do
  let v ← Provider.resolve (.text "lastVerifiedBatch") Provider.rejectNone
    [⟨"rollupManager", r.managerField "lastVerifiedBatch"⟩,
     ⟨"legacyRollup", r.sources.lastVerifiedBatch⟩]
  v.toInteger

/-- Rejects a chain id of zero with a fault that shows the id of the rollup. If that cannot be
written, the check fails. -/
def rejectZero (rollup : Value) : Provider.Check where
  run v :=
    if v.equals (.integer 0) then
      if rollup.isWritable then .ok (some (.emptyChainId rollup)) else .error .unwrittenInteger
    else .ok none

/-- The id of the rollup's own chain. -/
def chainId (r : Reader) : Traced Int := do
  let v ← Provider.resolve (.text "chainID") (rejectZero r.rollup)
    [⟨"legacyRollup", r.sources.chainId⟩, ⟨"rollupManager", r.managerField "chainID"⟩]
  v.toInteger

/-- The hash in the manager's record of a sequenced batch. -/
def hashOf (sequenced : Value) : Except Fault (List UInt8) := do
  let v ← match sequenced with
    | .record _ => sequenced.named "accInputHash"
    | v => v.item 0
  v.toByteString

/-- The accumulated input hash of a batch. -/
def accInputHash (r : Reader) (batch : Value) : Traced (List UInt8) := do
  let sequenced ← r.sources.sequencedBatch r.rollup batch
  hashOf sequenced

/-- Whether a failure says that there is no block. -/
def isMissingBlock : Fault → Bool
  | .reported _ r | .refused r => r.kind == .missingBlock
  | _ => false

/-- The last block, or none if the chain has no block yet. -/
def latestBlock (r : Reader) : Traced (Option Value) :=
  r.sources.latestBlock.resume fun
    | .ok v => pure (some v)
    | .error f => if isMissingBlock f then pure none else Traced.fail f

end Reader

end BatchFrontier
