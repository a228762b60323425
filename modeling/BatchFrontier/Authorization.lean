import BatchFrontier.Address
import BatchFrontier.Traced

/-!
# Authorizations

A transaction that is only shaped and never sent still needs a sender. An authorization is made for
one such transaction from a key that is drawn for it alone; its counter and its prices are fixed.
-/

namespace BatchFrontier

/-- A throwaway sender. -/
structure Authorization where
  address : Address
  chain : Value
  deriving Repr

namespace Authorization

/-- The counter of every shaped transaction. -/
def nonce : Nat := 1

/-- The gas of every shaped transaction. -/
def gas : Nat := 1

/-- The price of gas of every shaped transaction. -/
def gasPrice : Nat := 1

/-- A shaped transaction is never sent. -/
def noSend : Bool := true

/-- Makes an authorization for a chain from a drawn key, which is told by its address. The chain is
looked at before the key is drawn. -/
def create (chain : Value) (key : Except Fault Address) : Except Fault Authorization := do
  if ← chain.isNonpositive then .error (.showing .chainNotPositive chain)
  else
    match key with
    | .ok address => .ok ⟨address, chain⟩
    | .error cause => .error (if cause.isStop then cause else .noKey cause)

/-- Whether a fault says that an authorization cannot be made. -/
def isRefusal : Fault → Bool
  | .chainNotPositive _ | .noKey _ => true
  | _ => false

/-- What a transaction is shaped with. -/
def fields (a : Authorization) : TransactionFields :=
  ⟨a.address.text, a.chain, nonce, gas, gasPrice⟩

/-- The text of an authorization, which keeps the key to itself. -/
def text (a : Authorization) : Text :=
  "EphemeralAuth(address=" ++ a.address.text ++ ", chain_id=" ++ a.chain.shown ++ ", no_send=" ++
    (Value.truth noSend).literal ++ ")"

/-- Sets the counter, which cannot be done. -/
def setNonce (_ : Authorization) (_ : Value) : Except Fault Authorization :=
  .error (.frozen "nonce")

end Authorization

end BatchFrontier
