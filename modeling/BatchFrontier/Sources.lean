import BatchFrontier.Chain.Node

/-!
# Sources of a rollup's state

What is known of a rollup comes from five reads: two of the manager, two of the contract of the
single rollup, and the last block. The reads are made of a node and the addresses of the two
contracts, or of answers that are given in advance.
-/

namespace BatchFrontier

/-- The reads that a rollup's state comes from. -/
structure Sources where
  /-- The manager's record of a rollup. -/
  rollupData : Value → Traced Value
  /-- The manager's record of a sequenced batch of a rollup. -/
  sequencedBatch : Value → Value → Traced Value
  /-- The last verified batch of the single rollup. -/
  lastVerifiedBatch : Traced Value
  /-- The chain id of the single rollup. -/
  chainId : Traced Value
  /-- The last block. -/
  latestBlock : Traced Value

/-- The addresses of the two contracts. -/
structure Contracts where
  manager : Address
  legacy : Address
  deriving DecidableEq, Repr

/-- Reads the addresses of the two contracts, the manager's first. -/
def Contracts.ofValues (manager legacy : Value) : Except Fault Contracts := do
  let manager ← Address.ofValue manager
  let legacy ← Address.ofValue legacy
  pure ⟨manager, legacy⟩

/-- The reads of a node. -/
def Sources.ofNode (n : Chain.Node) (c : Contracts) : Sources where
  rollupData rollup := n.call c.manager Chain.rollupData [rollup]
  sequencedBatch rollup batch := n.call c.manager Chain.sequencedBatch [rollup, batch]
  lastVerifiedBatch := n.call c.legacy Chain.lastVerifiedBatch []
  chainId := n.call c.legacy Chain.chainId []
  latestBlock := n.latestBlock

/-- What a function does when it is called. -/
abbrev Outcome := Except Fault Value

/-- Answers given in advance, by the name of the callee and of the function. -/
abbrev Answers := List ((Text × Text) × Outcome)

namespace Answers

/-- The outcome of a function, if the callee has it. -/
def outcome? (answers : Answers) (callee function : Text) : Option Outcome :=
  (answers.find? fun a => a.1 == (callee, function)).map (·.2)

/-- The answers without those of a function. -/
def erase (answers : Answers) (callee function : Text) : Answers :=
  answers.filter fun a => a.1 != (callee, function)

/-- The answers with a new outcome for a function. -/
def insert (answers : Answers) (callee function : Text) (outcome : Outcome) : Answers :=
  ((callee, function), outcome) :: erase answers callee function

/-- Calls a function; a function that the callee does not have is not called. -/
def call (answers : Answers) (callee function : String) (arguments : List Value) :
    Traced Value :=
  match answers.outcome? callee function with
  | none => Traced.fail (.missingFunction function)
  | some outcome => ⟨[.called callee function arguments], outcome⟩

/-- The reads of answers given in advance. -/
def sources (answers : Answers) : Sources where
  rollupData rollup := answers.call "manager" Chain.rollupData.name [rollup]
  sequencedBatch rollup batch := answers.call "manager" Chain.sequencedBatch.name [rollup, batch]
  lastVerifiedBatch := answers.call "legacy" Chain.lastVerifiedBatch.name []
  chainId := answers.call "legacy" Chain.chainId.name []
  latestBlock := answers.call "node" "get_block" [.text "latest"]

end Answers

end BatchFrontier
