import BatchFrontier.Chain.Node
import BatchFrontier.Clock
import BatchFrontier.Network

/-!
# Connections

Before a node is used it is asked whether it is there. A status line then names the network it is on
and how long it took to find out; a node that does not tell is used all the same.
-/

namespace BatchFrontier.Connection

/-- The seconds to wait for a node unless told otherwise. -/
def defaultTimeout : Int := 25

/-- The line about a node whose network is known, and how long it took. -/
def namedLine (chain tip : Int) (took : String) : Except Fault Text := do
  let name ← Network.nameOfNumber chain
  let chain ← Value.decimal chain
  let tip ← Value.decimal tip
  pure ("🌐 Connected to " ++ name ++ " (chainId " ++ chain ++ ", tip=" ++ tip ++ ") in " ++ took)

/-- The line about a node that does not tell its network. -/
def namelessLine (took : String) : String :=
  "🌐 Connected to RPC (chain info unavailable) in " ++ took

/-- The line about the network of a node and the number of its last block. -/
def survey (n : Chain.Node) (took : String) : Traced Text := do
  let chain ← n.chainId
  let tip ← n.blockNumber
  namedLine chain tip took

/-- Writes the line about a node that is there. -/
def announce (n : Chain.Node) (took : String) : Traced Unit :=
  (survey n took).resume fun
    | .ok line => Traced.emit (.status line)
    | .error f =>
      if f.isStop then Traced.fail f else Traced.emit (.status (namelessLine took))

/-- Connects to the node at a place. The clock is read before and after. -/
def connect (n : Chain.Node) (clock : Clock) (url timeout : Value) : Traced Unit := do
  Traced.emit (.opened url timeout)
  if ← n.isReady then
    let took ← clock.between 0 1
    announce n took
  else Traced.fail (.showing .unreachable url)

end BatchFrontier.Connection
