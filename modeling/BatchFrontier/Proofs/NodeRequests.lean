import BatchFrontier.Connection
import BatchFrontier.Proofs.FaultKinds
import BatchFrontier.Proofs.ReaderReads
import BatchFrontier.Proofs.WordLayout

/-!
# What is asked of a node

A node is asked by a method, or a contract behind it is called. Connecting asks for three things in
a fixed order and stops where one is not told. A call asks for the chain first; where its answer is
empty, the node is asked once whether there is code at all. A reader makes two calls at most for a
value, the second if the first gives none.
-/

namespace BatchFrontier

open Chain

/-- A request to a node. -/
inductive Request where
  /-- A request by a method other than a call. -/
  | method (name : String)
  /-- A call of the contract at an address. -/
  | call (address : String) (data : List UInt8)
  deriving DecidableEq, Repr

namespace Request

/-- The name of the method of a request. -/
def name : Request → String
  | .method name => name
  | .call .. => "eth_call"

/-- Asks what the node is. -/
def version : Request := .method "web3_clientVersion"

/-- Asks for the id of the chain. -/
def chain : Request := .method "eth_chainId"

/-- Asks for the number of the last block. -/
def tip : Request := .method "eth_blockNumber"

/-- Asks for the last block. -/
def block : Request := .method "eth_getBlockByNumber"

/-- Asks for the code of a contract. -/
def code : Request := .method "eth_getCode"

/-- Whether a request is a call. -/
def isCall : Request → Bool
  | .method _ => false
  | .call .. => true

end Request

/-- The request that an event is, if it is one. -/
def Event.request? : Event → Option Request
  | .asked method => some (.method method)
  | .requested address data => some (.call address data)
  | _ => none

namespace Traced

variable {α β : Type}

/-- The requests of a computation in their order. -/
def requests (x : Traced α) : List Request := x.events.filterMap Event.request?

@[simp] theorem requests_pure (a : α) : (pure a : Traced α).requests = [] := rfl

@[simp] theorem requests_fail (f : Fault) : (fail f : Traced α).requests = [] := rfl

@[simp] theorem requests_lift (r : Except Fault α) : (liftM r : Traced α).requests = [] := rfl

@[simp] theorem requests_status (line : Text) : (emit (.status line)).requests = [] := rfl

@[simp] theorem requests_resume (x : Traced α) (next : Except Fault α → Traced β) :
    (x.resume next).requests = x.requests ++ (next x.result).requests :=
  List.filterMap_append

theorem requests_bind_of_ok {x : Traced α} {a : α} (next : α → Traced β) (h : x.result = .ok a) :
    (x >>= next).requests = x.requests ++ (next a).requests := by
  rw [bind_of_ok next h]
  exact List.filterMap_append

theorem requests_bind_of_error {x : Traced α} {f : Fault} (next : α → Traced β)
    (h : x.result = .error f) : (x >>= next).requests = x.requests := by
  rw [bind_of_error next h]
  rfl

theorem mem_requests_bind {x : Traced α} (next : α → Traced β) {r : Request} (h : r ∈ x.requests) :
    r ∈ (x >>= next).requests := by
  cases hx : x.result with
  | error f => rwa [requests_bind_of_error next hx]
  | ok a =>
    rw [requests_bind_of_ok next hx]
    exact List.mem_append_left _ h

theorem mem_requests_bind_of_ok {x : Traced α} {a : α} {next : α → Traced β} {r : Request}
    (hx : x.result = .ok a) (h : r ∈ (next a).requests) : r ∈ (x >>= next).requests := by
  rw [requests_bind_of_ok next hx]
  exact List.mem_append_right _ h

/-- What asks for nothing more adds no request. -/
theorem requests_bind_silent (x : Traced α) {next : α → Traced β}
    (h : ∀ a, (next a).requests = []) : (x >>= next).requests = x.requests := by
  cases hx : x.result with
  | error f => exact requests_bind_of_error next hx
  | ok a => rw [requests_bind_of_ok next hx, h, List.append_nil]

theorem requests_lift_bind (r : Except Fault α) {next : α → Traced β}
    (h : ∀ a, (next a).requests = []) : ((liftM r : Traced α) >>= next).requests = [] :=
  (requests_bind_silent _ h).trans (requests_lift r)

/-- Requests are seen among all that a computation does apart from logging. -/
theorem requests_eq (x : Traced α) : x.requests = x.acts.filterMap Event.request? := by
  have hlogged : (fun e : Event => if !e.isLogged then e.request? else none) =
      Event.request? := by
    funext e
    cases e <;> rfl
  rw [requests, acts, List.filterMap_filter, hlogged]

theorem requests_congr {x : Traced α} {y : Traced β} (h : x.acts = y.acts) :
    x.requests = y.requests := by
  rw [requests_eq, requests_eq, h]

end Traced

/-! ## Connecting -/

namespace Chain.Node

variable (n : Node)

theorem requests_result (method : String) : (n.result method).requests = [.method method] := rfl

theorem requests_quantityOf (method : String) :
    (n.quantityOf method).requests = [.method method] :=
  (n.result method).requests_bind_silent fun _ => rfl

theorem requests_number (method : String) : (n.number method).requests = [.method method] := by
  rw [number, Traced.requests_bind_silent _ fun _ => Traced.requests_lift _]
  exact n.requests_quantityOf method

theorem requests_latestBlock : n.latestBlock.requests = [.block] :=
  (n.result "eth_getBlockByNumber").requests_bind_silent fun _ => rfl

theorem requests_isReady : n.isReady.requests = [.version] := by
  refine Traced.requests_bind_silent (n.ask "web3_clientVersion") fun reply => ?_
  cases reply with
  | response r => rfl
  | raised f => by_cases hf : isTransportFault f = true <;> simp [hf]

end Chain.Node

namespace Connection

/-- The requests by which a node is connected to. -/
def requests : List Request := [.version, .chain, .tip]

/-- A node that is announced is asked for its chain and for the number of its last block. -/
theorem requests_announce (n : Node) (took : String) :
    (announce n took).requests = [.chain] ∨ (announce n took).requests = [.chain, .tip] := by
  -- The line about the node is no request, whether or not the node tells its network.
  have hsilent : (announce n took).requests = (survey n took).requests := by
    rw [announce, Traced.requests_resume]
    cases (survey n took).result with
    | ok line => exact List.append_nil _
    | error f => cases hstop : f.isStop <;> simp [hstop]
  rw [hsilent, survey]
  cases hchain : n.chainId.result with
  | error f =>
    rw [Traced.requests_bind_of_error _ hchain]
    exact .inl (n.requests_number _)
  | ok chain =>
    have htip : (n.blockNumber >>= fun tip => liftM (namedLine chain tip took) :
        Traced Text).requests = [.tip] := by
      rw [Traced.requests_bind_silent _ fun _ => Traced.requests_lift _]
      exact n.requests_number _
    rw [Traced.requests_bind_of_ok _ hchain, htip, Node.chainId, n.requests_number]
    exact .inr rfl

/-- Connecting asks for three things at most, in their order. -/
theorem requests_connect (n : Node) (clock : Clock) (url timeout : Value) :
    (connect n clock url timeout).requests <+: requests := by
  have hopened : (Traced.emit (.opened url timeout)).result = .ok () := rfl
  rw [connect, Traced.requests_bind_of_ok _ hopened]
  change (n.isReady >>= _).requests <+: requests
  cases hready : n.isReady.result with
  | error f =>
    rw [Traced.requests_bind_of_error _ hready, n.requests_isReady]
    exact ⟨[.chain, .tip], rfl⟩
  | ok isReady =>
    rw [Traced.requests_bind_of_ok _ hready, n.requests_isReady]
    cases isReady with
    | false => exact ⟨[.chain, .tip], rfl⟩
    | true =>
      simp only [if_true]
      cases htook : clock.between 0 1 with
      | error f =>
        rw [Traced.requests_bind_of_error _ (Traced.lift_result _)]
        exact ⟨[.chain, .tip], rfl⟩
      | ok took =>
        rw [Traced.requests_bind_of_ok _ (Traced.lift_result _), Traced.requests_lift,
          List.nil_append]
        rcases requests_announce n took with hone | htwo
        · rw [hone]
          exact ⟨[.tip], rfl⟩
        · rw [htwo]
          exact ⟨[], rfl⟩

end Connection

/-! ## Calls -/

/-- A call of a function of a contract. -/
structure Query where
  address : Address
  function : Chain.Function
  arguments : List Value

namespace Query

/-- The requests of a call. -/
def requests (n : Node) (q : Query) : List Request :=
  (n.call q.address q.function q.arguments).requests

/-- That requests are those of a call. -/
inductive Makes (n : Node) (q : Query) : List Request → Prop
  /-- The arguments do not fit. -/
  | nothing (h : q.function.callData? q.arguments = none) : Makes n q []
  /-- The node does not tell its chain. -/
  | chain : Makes n q [.chain]
  | call {data : List UInt8} (h : q.function.callData? q.arguments = some data) :
    Makes n q [.chain, .call q.address.text data]
  /-- The answer is empty. -/
  | code {data bs : List UInt8} (h : q.function.callData? q.arguments = some data)
    (hanswer : (n.send q.address data).result = .ok bs) (hempty : Node.isEmptyCode bs = true) :
    Makes n q [.chain, .call q.address.text data, .code]

end Query

namespace Chain.Node

variable (n : Node) (a : Address)

theorem requests_callResult (data : List UInt8) : (n.callResult a data).requests = [.chain] ∨
    (n.callResult a data).requests = [.chain, .call a.text data] := by
  rw [callResult]
  cases htold : (n.quantityOf chainIdMethod).result with
  | error f =>
    rw [Traced.requests_bind_of_error _ htold]
    exact .inl (n.requests_quantityOf _)
  | ok id =>
    rw [Traced.requests_bind_of_ok _ htold, n.requests_quantityOf]
    exact .inr rfl

/-- Sending a call asks for the chain, and then calls. -/
theorem requests_send (data : List UInt8) : (n.send a data).requests = [.chain] ∨
    (n.send a data).requests = [.chain, .call a.text data] := by
  have hsilent : (n.send a data).requests = (n.callResult a data).requests := by
    rw [send, Traced.requests_resume]
    cases (n.callResult a data).result <;> exact List.append_nil _
  rw [hsilent]
  exact n.requests_callResult a data

/-- A call that is answered was made. -/
theorem requests_send_of_ok {data bs : List UInt8} (h : (n.send a data).result = .ok bs) :
    (n.send a data).requests = [.chain, .call a.text data] := by
  cases hcall : (n.callResult a data).result with
  | error f =>
    rw [send, Traced.resume_result, hcall] at h
    cases h
  | ok v =>
    have hsilent : (n.send a data).requests = (n.callResult a data).requests := by
      rw [send, Traced.requests_resume, hcall]
      exact List.append_nil _
    obtain ⟨id, htold, -⟩ := Traced.bind_eq_ok_iff.mp hcall
    rw [hsilent, callResult, Traced.requests_bind_of_ok _ htold, n.requests_quantityOf]
    rfl

/-- The node is asked for code where an answer is empty. -/
theorem requests_failUnread (f : Function) (bs : List UInt8) :
    (n.failUnread f bs).requests = if isEmptyCode bs then [.code] else [] := by
  unfold failUnread
  split
  · refine (Traced.requests_bind_silent _ fun v => ?_).trans (n.requests_result _)
    exact (Traced.requests_bind_silent _ fun _ => Traced.requests_fail _).trans rfl
  · rfl

/-- What a call asks of the node. -/
theorem makes_requests (q : Query) : q.Makes n (q.requests n) := by
  obtain ⟨a, f, arguments⟩ := q
  rw [Query.requests, call]
  cases hdata : f.callData? arguments with
  | none =>
    rw [Traced.requests_bind_of_error _
      ((Traced.lift_result _).trans (Function.callData_of_none hdata))]
    exact .nothing hdata
  | some data =>
    have hfits : f.callData arguments = .ok data := by rw [Function.callData, hdata]
    rw [Traced.requests_bind_of_ok _ ((Traced.lift_result _).trans hfits), Traced.requests_lift,
      List.nil_append]
    cases hsend : (n.send a data).result with
    | error g =>
      rw [Traced.requests_bind_of_error _ hsend]
      rcases n.requests_send a data with hchain | hcall
      · rw [hchain]
        exact .chain
      · rw [hcall]
        exact .call hdata
    | ok bs =>
      rw [Traced.requests_bind_of_ok _ hsend, n.requests_send_of_ok a hsend]
      cases hread : f.answer? bs with
      | some v => exact .call hdata
      | none =>
        simp only [n.requests_failUnread]
        split
        · next hempty => exact .code hdata hsend hempty
        · exact .call hdata

/-- A call that the first rule of a node is about is answered by this rule. -/
theorem send_of_rule {replies : List (String × Reply)} {rule : CallRule} {rules : List CallRule}
    {a : Address} {data : List UInt8} {v : Value}
    (htold : ∃ id, (quantityOf ⟨replies, rule :: rules⟩ chainIdMethod).result = .ok id)
    (haddress : rule.address.chars.map Char.toLower = a.text.toList.map Char.toLower)
    (hdata : Text.beginsWith (Hex.writeMarked data) rule.data = true)
    (hreply : rule.reply = .response (.ofResult v)) :
    (send ⟨replies, rule :: rules⟩ a data).result = v.toBytes := by
  obtain ⟨id, hid⟩ := htold
  have hcallReply : callReply ⟨replies, rule :: rules⟩ a data = .response (.ofResult v) := by
    simp [callReply, haddress, hdata, hreply]
  have hanswer : (callResult ⟨replies, rule :: rules⟩ a data).result = .ok v := by
    rw [callResult, Traced.bind_of_ok _ hid, Traced.bind_of_ok _ (Traced.emit_result _),
      hcallReply]
    exact Response.outcome_ofResult v true (Refusal.callFault a)
  rw [send, Traced.resume_result, hanswer]
  rfl

/-- An empty answer that cannot be read is put down to missing code, which the node is asked for. -/
theorem code_mem_requests {n : Node} {q : Query} {data bs : List UInt8}
    (hdata : q.function.callData? q.arguments = some data)
    (hsend : (n.send q.address data).result = .ok bs) (hempty : isEmptyCode bs = true)
    (hunread : q.function.answer? bs = none) : .code ∈ q.requests n := by
  have hfits : q.function.callData q.arguments = .ok data := by rw [Function.callData, hdata]
  have hcode : .code ∈ (n.failUnread q.function bs).requests := by
    rw [n.requests_failUnread, if_pos hempty]
    exact List.mem_singleton.mpr rfl
  refine Traced.mem_requests_bind_of_ok ((Traced.lift_result _).trans hfits) ?_
  refine Traced.mem_requests_bind_of_ok hsend ?_
  rw [hunread]
  exact hcode

end Chain.Node

/-! ## Reads of a state -/

/-- Of two providers the first is asked, and then perhaps the second. -/
theorem Provider.resolve_pair_acts (what : Value) (check : Check)
    (p q : Provider) : (resolve what check [p, q]).acts = p.read.acts ∨
      (resolve what check [p, q]).acts = p.read.acts ++ q.read.acts := by
  cases h : p.outcome check with
  | ok v => exact .inl (resolve_pair_of_ok what q h).2
  | error f =>
    unfold resolve
    rw [firstAccepted, Traced.acts_resume, ask_result, ask_acts, h]
    cases p.isLast check with
    | false => exact .inr (by simp [(firstAccepted_singleton what check q f).2])
    | true => exact .inl (List.append_nil _)

namespace Reader

variable (n : Node) (c : Contracts) (rollup : Value)

/-- The call by which the manager is asked for its record of a rollup. -/
def recordQuery : Query := ⟨c.manager, Chain.rollupData, [rollup]⟩

/-- The call by which the legacy contract is asked for the last verified batch. -/
def batchQuery : Query := ⟨c.legacy, Chain.lastVerifiedBatch, []⟩

/-- The call by which the legacy contract is asked for the id of its chain. -/
def chainQuery : Query := ⟨c.legacy, Chain.chainId, []⟩

/-- The call by which the manager is asked for its record of a sequenced batch. -/
def hashQuery (batch : Value) : Query := ⟨c.manager, Chain.sequencedBatch, [rollup, batch]⟩

variable {n c rollup}

/-- What a value is resolved from that two calls may give: it takes the first, and then perhaps the
second. -/
theorem exists_queries_of_resolve {what : Value} {check : Provider.Check}
    {p q : Provider} {first second : Query}
    (hp : p.read.acts = (n.call first.address first.function first.arguments).acts)
    (hq : q.read.acts = (n.call second.address second.function second.arguments).acts)
    {α : Type} {x : Traced α} (hx : x.acts = (Provider.resolve what check [p, q]).acts) :
    ∃ more, more <+: [second] ∧ x.requests = (first :: more).flatMap (Query.requests n) := by
  rcases Provider.resolve_pair_acts what check p q with hone | htwo
  · refine ⟨[], ⟨[second], rfl⟩, ?_⟩
    rw [List.flatMap_singleton, Query.requests, Traced.requests_eq, Traced.requests_eq, hx, hone,
      hp]
  · refine ⟨[second], ⟨[], rfl⟩, ?_⟩
    rw [List.flatMap_cons, List.flatMap_singleton, Query.requests, Query.requests,
      Traced.requests_eq, Traced.requests_eq, Traced.requests_eq, hx, htwo, hp, hq,
      List.filterMap_append]

variable (n c rollup)

/-- For the last verified batch the manager is asked, and then perhaps the legacy contract. -/
theorem requests_latestVerifiedBatch : ∃ more, more <+: [batchQuery c] ∧
    (latestVerifiedBatch ⟨.ofNode n c, rollup⟩).requests =
      (recordQuery c rollup :: more).flatMap (Query.requests n) := by
  have hmanager := managerField_acts ⟨.ofNode n c, rollup⟩ "lastVerifiedBatch"
  exact exists_queries_of_resolve hmanager rfl (resolved_acts _)

/-- For the id of its chain the legacy contract is asked, and then perhaps the manager. -/
theorem requests_chainId : ∃ more, more <+: [recordQuery c rollup] ∧
    (chainId ⟨.ofNode n c, rollup⟩).requests =
      (chainQuery c :: more).flatMap (Query.requests n) := by
  have hmanager := managerField_acts ⟨.ofNode n c, rollup⟩ "chainID"
  exact exists_queries_of_resolve rfl hmanager (resolved_acts _)

/-- For the hash of a batch the manager is asked. -/
theorem requests_accInputHash (batch : Value) :
    (accInputHash ⟨.ofNode n c, rollup⟩ batch).requests =
      (hashQuery c rollup batch).requests n :=
  Traced.requests_congr (accInputHash_acts ⟨.ofNode n c, rollup⟩ batch)

theorem requests_latestBlock : (latestBlock ⟨.ofNode n c, rollup⟩).requests = [.block] := by
  have hsilent : (latestBlock ⟨.ofNode n c, rollup⟩).requests = n.latestBlock.requests := by
    rw [latestBlock, Traced.requests_resume]
    cases (Sources.ofNode n c).latestBlock.result with
    | ok v => exact List.append_nil _
    | error f => cases hmissing : isMissingBlock f <;> simp [hmissing] <;> rfl
  rw [hsilent]
  exact n.requests_latestBlock

end Reader

end BatchFrontier
