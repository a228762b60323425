import BatchFrontier.Conversion

/-!
# Networks

The names of the chains on which rollups settle.
-/

namespace BatchFrontier.Network

/-- The known chains by their ids. -/
def known : List (Nat × String) :=
  [(1, "Ethereum Mainnet"), (11155111, "Sepolia Testnet"), (17000, "Holesky Testnet"),
   (137, "Polygon")]

/-- The name of the chain with an id. -/
def name (chain : Value) : Text :=
  match known.find? fun n => chain.equals (.integer n.1) with
  | some n => n.2
  | none => "Unknown (chain ID " ++ chain.shown ++ ")"

/-- The name of the chain with a number. A number with too many digits is written nowhere, so its
chain has no name. -/
def nameOfNumber (n : Int) : Except Fault Text := do
  let _ ← Value.decimal n
  pure (name (.integer n))

/-- The name of the chain with an id of any kind that can be written and looked up. -/
def nameOf (chain : Value) : Except Fault Text :=
  if chain.isWritable = false then .error .unwrittenInteger
  else if chain.isKey then .ok (name chain) else .error (.mistyped chain.kind)

end BatchFrontier.Network
