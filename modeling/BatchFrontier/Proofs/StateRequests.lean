import BatchFrontier.Proofs.NodeRequests
import BatchFrontier.Proofs.StateEscapes
import BatchFrontier.Proofs.VerificationCall

/-!
# What showing a state asks of a node

A state is shown in stages, each of which is reached only if the one before it passes: connecting,
the last block, the chain, two reads of the contracts, and the hash of a batch. The hash comes last,
so that it is asked for only where everything else was obtained.
-/

namespace BatchFrontier

/-! ## Stages -/

/-- A stage of a computation: its requests, and whether what comes after it is reached. -/
structure Stage where
  requests : List Request
  passes : Prop

namespace Stage

variable {α β : Type}

/-- The stage that a computation is. -/
def of (x : Traced α) : Stage := ⟨x.requests, ∃ a, x.result = .ok a⟩

@[simp] theorem requests_of (x : Traced α) : (of x).requests = x.requests := rfl

/-- That requests are those of stages one after the other, each of which is reached only if the one
before it passes. -/
inductive Run : List Stage → List Request → Prop
  | stopped {stages : List Stage} : Run stages []
  | last {stage : Stage} {stages : List Stage} : Run (stage :: stages) stage.requests
  | passed {stage : Stage} {stages : List Stage} {rs : List Request} (h : stage.passes)
    (hrs : Run stages rs) : Run (stage :: stages) (stage.requests ++ rs)

/-- A computation after which stages follow is a stage before them. -/
theorem run_bind {x : Traced α} {next : α → Traced β} {stages : List Stage}
    (h : ∀ a, x.result = .ok a → Run stages (next a).requests) :
    Run (of x :: stages) (x >>= next).requests := by
  cases hx : x.result with
  | error f =>
    rw [Traced.requests_bind_of_error next hx]
    exact .last
  | ok a =>
    rw [Traced.requests_bind_of_ok next hx]
    exact .passed ⟨a, hx⟩ (h a hx)

/-- What asks for nothing is no stage of its own. -/
theorem run_lift_bind {r : Except Fault α} {next : α → Traced β} {stages : List Stage}
    (h : ∀ a, r = .ok a → Run stages (next a).requests) :
    Run stages ((liftM r : Traced α) >>= next).requests := by
  cases hr : r with
  | error f =>
    rw [Traced.requests_bind_of_error next (Traced.lift_result _)]
    exact .stopped
  | ok a =>
    rw [Traced.requests_bind_of_ok next (Traced.lift_result _)]
    exact h a hr

/-- Where the last stage alone makes a request, all stages before it have passed. -/
theorem Run.of_mem {before : List Stage} {final : Stage} {rs : List Request}
    (h : Run (before ++ [final]) rs) {r : Request} (hr : r ∈ rs)
    (hbefore : ∀ stage ∈ before, r ∉ stage.requests) :
    (∀ stage ∈ before, stage.passes) ∧ rs = before.flatMap requests ++ final.requests := by
  induction before generalizing rs with
  | nil =>
    refine ⟨fun stage hstage => absurd hstage List.not_mem_nil, ?_⟩
    cases h with
    | stopped => cases hr
    | last => rfl
    | passed _ hrs =>
      cases hrs
      exact List.append_nil _
  | cons stage before ih =>
    obtain ⟨hstage, hrest⟩ := List.forall_mem_cons.mp hbefore
    -- A run that ends at this stage lacks the request, so the stage was passed.
    cases h with
    | stopped => cases hr
    | last => exact absurd hr hstage
    | passed hpasses hrs =>
      have hlater := (List.mem_append.mp hr).resolve_left hstage
      obtain ⟨hall, rfl⟩ := ih hrs hlater hrest
      refine ⟨List.forall_mem_cons.mpr ⟨hpasses, hall⟩, ?_⟩
      rw [List.flatMap_cons, List.append_assoc]

/-- That the requests of a stage are those of some of the calls in a list, in their order. -/
def Calls (n : Chain.Node) (stage : Stage) (qs : List Query) : Prop :=
  ∃ made : List Query, made.Sublist qs ∧ stage.requests = made.flatMap (Query.requests n)

/-- Stages that make calls make some of all these calls, in their order. -/
theorem Run.exists_calls {n : Chain.Node} {stages : List Stage} {rs : List Request}
    (h : Run stages rs) {qs : List (List Query)} (hqs : List.Forall₂ (Calls n) stages qs) :
    ∃ made : List Query, made.Sublist qs.flatten ∧ rs = made.flatMap (Query.requests n) := by
  induction h generalizing qs with
  | stopped => exact ⟨[], List.nil_sublist _, rfl⟩
  | last =>
    cases hqs with
    | cons hstage hrest =>
      obtain ⟨made, hmade, hrequests⟩ := hstage
      exact ⟨made, hmade.trans (List.sublist_append_left _ _), hrequests⟩
  | passed _ _ ih =>
    cases hqs with
    | cons hstage hrest =>
      obtain ⟨made, hmade, hrequests⟩ := hstage
      obtain ⟨later, hlater, rfl⟩ := ih hrest
      refine ⟨made ++ later, hmade.append hlater, ?_⟩
      rw [hrequests, List.flatMap_append]

end Stage

/-! ## Requests for the hash of a batch -/

/-- That a request asks for the record of a sequenced batch, which has the hash of the batch. -/
def Request.AsksHash (r : Request) : Prop :=
  ∃ address arguments data, Chain.sequencedBatch.callData? arguments = some data ∧
    r = .call address data

theorem Request.not_asksHash_method (name : String) : ¬ (Request.method name).AsksHash := by
  rintro ⟨address, arguments, data, -, hcall⟩
  cases hcall

namespace Query

variable {n : Chain.Node} {q : Query}

/-- A call goes to its address with its function and arguments, right after the node has told its
chain; only a request for code follows it. -/
theorem Makes.of_call_mem {rs : List Request} (h : q.Makes n rs) {address : String}
    {data : List UInt8} (hr : .call address data ∈ rs) :
    address = q.address.text ∧ q.function.callData? q.arguments = some data ∧
      ∃ after, rs = .chain :: .call address data :: after ∧ ∀ r ∈ after, r = .code := by
  cases h with
  | nothing => cases hr
  | chain => simp [Request.chain] at hr
  | call hdata =>
    obtain ⟨rfl, rfl⟩ : address = q.address.text ∧ data = _ := by simpa [Request.chain] using hr
    exact ⟨rfl, hdata, [], rfl, fun r hr => absurd hr List.not_mem_nil⟩
  | code hdata =>
    obtain ⟨rfl, rfl⟩ : address = q.address.text ∧ data = _ := by
      simpa [Request.chain, Request.code] using hr
    exact ⟨rfl, hdata, [.code], rfl, fun r hr => List.mem_singleton.mp hr⟩

/-- Calls of functions whose arguments take up less do not ask for the hash of a batch. -/
theorem not_asksHash_of_mem (hsize : Abi.totalSize q.function.inputs < 64)
    {r : Request} (h : r ∈ q.requests n) : ¬ r.AsksHash := by
  rintro ⟨address, arguments, data, hdata, rfl⟩
  -- The data of the two calls differ in their lengths, whatever the selectors are.
  have hlong := Chain.Function.length_callData hdata
  have hshort := Chain.Function.length_callData ((n.makes_requests q).of_call_mem h).2.1
  have hinputs : Abi.totalSize Chain.sequencedBatch.inputs = 64 := rfl
  omega

/-- The methods of a call. -/
theorem Makes.kind_of_mem {rs : List Request} (h : q.Makes n rs) {r : Request} (hr : r ∈ rs) :
    r = .chain ∨ r.name = "eth_call" ∨ r = .code := by
  cases h with
  | nothing => cases hr
  | chain => exact .inl (List.mem_singleton.mp hr)
  | call =>
    rcases List.mem_cons.mp hr with rfl | hr
    · exact .inl rfl
    · rw [List.mem_singleton.mp hr]
      exact .inr (.inl rfl)
  | code =>
    rcases List.mem_cons.mp hr with rfl | hr
    · exact .inl rfl
    · rcases List.mem_cons.mp hr with rfl | hr
      · exact .inr (.inl rfl)
      · exact .inr (.inr (List.mem_singleton.mp hr))

/-- A call is made once at most. -/
theorem Makes.length_calls {rs : List Request} (h : q.Makes n rs) :
    (rs.filter Request.isCall).length ≤ 1 := by
  cases h with
  | nothing => exact Nat.zero_le 1
  | chain => exact Nat.zero_le 1
  | call => exact Nat.le_refl 1
  | code => exact Nat.le_refl 1

/-- As many calls are made at most as there are to make. -/
theorem length_calls_flatten {qs : List Query} {parts : List (List Request)}
    (h : List.Forall₂ (Makes n) qs parts) :
    (parts.flatten.filter Request.isCall).length ≤ qs.length := by
  induction h with
  | nil => exact Nat.le_refl 0
  | cons hpart _ ih =>
    have hone := hpart.length_calls
    rw [List.flatten_cons, List.filter_append, List.length_append, List.length_cons]
    omega

/-- Each request of some calls comes from one of them. -/
theorem exists_of_mem_flatten {qs : List Query} {parts : List (List Request)}
    (h : List.Forall₂ (Makes n) qs parts) {r : Request} (hr : r ∈ parts.flatten) :
    ∃ q ∈ qs, ∃ part, q.Makes n part ∧ r ∈ part := by
  induction h with
  | nil => cases hr
  | cons hpart _ ih =>
    rcases List.mem_append.mp hr with hr | hr
    · exact ⟨_, List.mem_cons_self, _, hpart, hr⟩
    · obtain ⟨q, hq, hmade⟩ := ih hr
      exact ⟨q, List.mem_cons_of_mem _ hq, hmade⟩

end Query

namespace CommandLine

/-! ## Showing a state -/

variable (w : Surroundings) (s : Settings) (c : Contracts) (batch : Option Value)

/-- Connecting to the node of the settings. -/
def connecting : Traced Unit :=
  Connection.connect w.node w.clock s.rpcUrl (.integer Connection.defaultTimeout)

/-- Connecting asks for three things at most, in their order. -/
theorem requests_connecting : (connecting w s).requests <+: Connection.requests :=
  Connection.requests_connect w.node w.clock s.rpcUrl _

/-- The reader of the rollup of the settings. -/
def reading : Reader := ⟨.ofNode w.node c, s.rollup⟩

/-- What has to be obtained before the hash of a batch. -/
def stagesBefore : List Stage :=
  [.of (connecting w s), .of (reading w s c).latestBlock, .of w.node.chainId,
    .of (reading w s c).latestVerifiedBatch, .of (reading w s c).chainId]

theorem openChain_eq : openChain w s =
    connecting w s >>= fun _ => liftM (Contracts.ofValues s.manager s.legacy) := rfl

theorem requests_openChain : (openChain w s).requests = (connecting w s).requests :=
  Traced.requests_bind_silent _ fun _ => Traced.requests_lift _

/-- A state is shown in stages, the last of which is for the hash of a batch. -/
theorem run_stateDocument {c : Contracts} (hc : Contracts.ofValues s.manager s.legacy = .ok c) :
    Stage.Run (stagesBefore w s c ++ [.of (hashField (reading w s c) batch)])
      (stateDocument w s batch).requests := by
  rw [stateDocument, openChain_eq, Traced.bind_assoc]
  refine Stage.run_bind fun u _ => Stage.run_lift_bind fun c' hc' => ?_
  obtain rfl := Except.ok.inj (hc.symm.trans hc')
  -- What is only computed on the way, such as the name of the network, is no stage.
  refine Stage.run_bind fun block _ => Stage.run_bind fun id _ =>
    Stage.run_lift_bind fun name _ => Stage.run_bind fun verified _ =>
    Stage.run_bind fun chain _ => Stage.run_lift_bind fun number _ =>
    Stage.run_lift_bind fun moment _ => Stage.run_bind fun hash _ =>
    Stage.run_lift_bind fun took _ => ?_
  exact .stopped

/-- Where there are no contracts, showing a state only connects. -/
theorem requests_stateDocument_of_error {f : Fault}
    (hc : Contracts.ofValues s.manager s.legacy = .error f) :
    (stateDocument w s batch).requests = (connecting w s).requests := by
  cases hopen : (openChain w s).result with
  | error g => rw [stateDocument, Traced.requests_bind_of_error _ hopen, requests_openChain]
  | ok c => cases hc.symm.trans (ofValues_of_openChain hopen)

/-- The calls by which a state may be read, in their order. -/
def stateQueries (rollup : Value) : List Query :=
  [Reader.recordQuery c rollup, Reader.batchQuery c, Reader.chainQuery c,
    Reader.recordQuery c rollup] ++ batch.toList.map (Reader.hashQuery c rollup)

/-- That requests are those of reading a state: the last block, then the chain, then some of the
calls in their order. -/
inductive IsReading (n : Chain.Node) (c : Contracts) (rollup : Value) (batch : Option Value) :
    List Request → Prop
  | block : IsReading n c rollup batch [.block]
  | chain {qs : List Query} {parts : List (List Request)}
    (hqs : qs.Sublist (stateQueries c batch rollup))
    (hparts : List.Forall₂ (Query.Makes n) qs parts) :
    IsReading n c rollup batch (.block :: .chain :: parts.flatten)

namespace IsReading

variable {n : Chain.Node} {c batch} {rollup : Value} {rs : List Request}

/-- A reading makes five calls at most. -/
theorem length_calls (h : IsReading n c rollup batch rs) :
    (rs.filter Request.isCall).length ≤ 5 := by
  cases h with
  | block => exact Nat.zero_le 5
  | @chain qs parts hqs hmakes =>
    have hfive : (stateQueries c batch rollup).length ≤ 5 := by
      cases batch <;> simp [stateQueries]
    calc ((.block :: .chain :: parts.flatten : List Request).filter Request.isCall).length
        = (parts.flatten.filter Request.isCall).length := rfl
      _ ≤ qs.length := Query.length_calls_flatten hmakes
      _ ≤ (stateQueries c batch rollup).length := hqs.length_le
      _ ≤ 5 := hfive

/-- Each request of a reading is for the last block or for the chain, or comes from a call. -/
theorem exists_query_of_mem (h : IsReading n c rollup batch rs) {r : Request} (hr : r ∈ rs) :
    r = .block ∨ r = .chain ∨ ∃ q ∈ stateQueries c batch rollup, ∃ part, q.Makes n part ∧
      r ∈ part := by
  cases h with
  | block => exact .inl (List.mem_singleton.mp hr)
  | chain hqs hmakes =>
    rcases List.mem_cons.mp hr with hr | hr
    · exact .inl hr
    · rcases List.mem_cons.mp hr with hr | hr
      · exact .inr (.inl hr)
      · obtain ⟨q, hq, hmade⟩ := Query.exists_of_mem_flatten hmakes hr
        exact .inr (.inr ⟨q, hqs.subset hq, hmade⟩)

end IsReading

/-- The hash of a batch is asked for if there is a batch. -/
theorem requests_hashField : (hashField (reading w s c) batch).requests =
    (batch.toList.map (Reader.hashQuery c s.rollup)).flatMap (Query.requests w.node) := by
  cases batch with
  | none => rfl
  | some b =>
    have hhash : (hashField (reading w s c) (some b)).requests =
        ((reading w s c).accInputHash b).requests :=
      Traced.requests_bind_silent _ fun _ => Traced.requests_pure _
    rw [hhash, reading, Reader.requests_accInputHash, Option.toList_some, List.map_singleton,
      List.flatMap_singleton]

theorem calls_latestVerifiedBatch : Stage.Calls w.node (.of (reading w s c).latestVerifiedBatch)
    [Reader.recordQuery c s.rollup, Reader.batchQuery c] := by
  obtain ⟨more, hmore, hverified⟩ := Reader.requests_latestVerifiedBatch w.node c s.rollup
  exact ⟨_, hmore.sublist.cons_cons _, hverified⟩

theorem calls_chainId : Stage.Calls w.node (.of (reading w s c).chainId)
    [Reader.chainQuery c, Reader.recordQuery c s.rollup] := by
  obtain ⟨more, hmore, hchain⟩ := Reader.requests_chainId w.node c s.rollup
  exact ⟨_, hmore.sublist.cons_cons _, hchain⟩

theorem calls_hashField : Stage.Calls w.node (.of (hashField (reading w s c) batch))
    (batch.toList.map (Reader.hashQuery c s.rollup)) :=
  ⟨_, List.Sublist.refl _, requests_hashField w s c batch⟩

/-- What a run through the stages asks for, after connecting, is a reading. -/
theorem isReading_of_run {rs : List Request} (h : Stage.Run
      [.of (reading w s c).latestBlock, .of w.node.chainId,
        .of (reading w s c).latestVerifiedBatch, .of (reading w s c).chainId,
        .of (hashField (reading w s c) batch)] rs) :
    rs = [] ∨ IsReading w.node c s.rollup batch rs := by
  have hblock : (reading w s c).latestBlock.requests = [.block] :=
    Reader.requests_latestBlock w.node c s.rollup
  have hchain : w.node.chainId.requests = [.chain] := w.node.requests_number _
  cases h with
  | stopped => exact .inl rfl
  | last =>
    rw [Stage.requests_of, hblock]
    exact .inr .block
  | passed _ hrest =>
    rw [Stage.requests_of, hblock]
    refine .inr ?_
    cases hrest with
    | stopped => exact .block
    | last =>
      rw [Stage.requests_of, hchain]
      exact .chain (List.nil_sublist _) .nil
    | passed _ hcalls =>
      rw [Stage.requests_of, hchain]
      obtain ⟨made, hmade, rfl⟩ := hcalls.exists_calls (.cons (calls_latestVerifiedBatch w s c)
        (.cons (calls_chainId w s c) (.cons (calls_hashField w s c batch) .nil)))
      rw [List.flatMap_def]
      refine .chain (by simpa [stateQueries] using hmade) ?_
      exact List.forall₂_map_right_iff.mpr
        (List.forall₂_same.mpr fun q _ => w.node.makes_requests q)

/-- What has been obtained before the hash of a batch is asked for. -/
structure Obtained : Prop where
  block : ∃ block, (reading w s c).latestBlock.result = .ok block
  network : ∃ id, w.node.chainId.result = .ok id
  verified : ∃ n, (reading w s c).latestVerifiedBatch.result = .ok n
  chain : ∃ n, (reading w s c).chainId.result = .ok n

/-- The requests by which everything but the hash of a batch is obtained. -/
def requestsBefore : List Request :=
  (connecting w s).requests ++ (reading w s c).latestBlock.requests ++ w.node.chainId.requests ++
    (reading w s c).latestVerifiedBatch.requests ++ (reading w s c).chainId.requests

/-- What makes calls with one argument at most does not ask for the hash of a batch. -/
theorem not_asksHash_of_calls {n : Chain.Node} {stage : Stage} {qs : List Query}
    (h : stage.Calls n qs) (hqs : ∀ q ∈ qs, Abi.totalSize q.function.inputs < 64)
    {r : Request} (hr : r ∈ stage.requests) : ¬ r.AsksHash := by
  obtain ⟨made, hmade, hrequests⟩ := h
  rw [hrequests] at hr
  obtain ⟨q, hq, hr⟩ := List.mem_flatMap.mp hr
  exact Query.not_asksHash_of_mem (hqs q (hmade.subset hq)) hr

/-- Nothing before the hash of a batch asks for it. -/
theorem not_asksHash_before {stage : Stage} (hstage : stage ∈ stagesBefore w s c) {r : Request}
    (hr : r ∈ stage.requests) : ¬ r.AsksHash := by
  have hrecord : Abi.totalSize Chain.rollupData.inputs < 64 := by decide
  have hbatch : Abi.totalSize Chain.lastVerifiedBatch.inputs < 64 := by decide
  have hchain : Abi.totalSize Chain.chainId.inputs < 64 := by decide
  simp only [stagesBefore, List.mem_cons, List.not_mem_nil, or_false] at hstage
  rcases hstage with rfl | rfl | rfl | rfl | rfl
  · have hopening := (requests_connecting w s).subset hr
    simp only [Connection.requests, List.mem_cons, List.not_mem_nil, or_false] at hopening
    rcases hopening with rfl | rfl | rfl <;> exact Request.not_asksHash_method _
  · have hblock : r ∈ [Request.block] := Reader.requests_latestBlock w.node c s.rollup ▸ hr
    rw [List.mem_singleton.mp hblock]
    exact Request.not_asksHash_method _
  · have hchain : r ∈ [Request.chain] := w.node.requests_number Chain.Node.chainIdMethod ▸ hr
    rw [List.mem_singleton.mp hchain]
    exact Request.not_asksHash_method _
  · refine not_asksHash_of_calls (calls_latestVerifiedBatch w s c) ?_ hr
    exact List.forall_mem_cons.mpr ⟨hrecord, List.forall_mem_singleton.mpr hbatch⟩
  · refine not_asksHash_of_calls (calls_chainId w s c) ?_ hr
    exact List.forall_mem_cons.mpr ⟨hchain, List.forall_mem_singleton.mpr hrecord⟩

theorem flatMap_stagesBefore :
    (stagesBefore w s c).flatMap Stage.requests = requestsBefore w s c := by
  simp [stagesBefore, requestsBefore]

theorem not_asksHash_requestsBefore {r : Request} (h : r ∈ requestsBefore w s c) :
    ¬ r.AsksHash := by
  rw [← flatMap_stagesBefore] at h
  obtain ⟨stage, hstage, hr⟩ := List.mem_flatMap.mp h
  exact not_asksHash_before w s c hstage hr

/-- The last stage asks the manager for the hash of a batch if there is one, after the chain, and
perhaps for code. -/
theorem exists_call_of_asksHash {r : Request} (hr : r ∈ (hashField (reading w s c) batch).requests)
    (hasks : r.AsksHash) : ∃ b data after, batch = some b ∧
      Chain.sequencedBatch.callData? [s.rollup, b] = some data ∧
      r = .call c.manager.text data ∧
      (hashField (reading w s c) batch).requests = .chain :: r :: after ∧
      ∀ q ∈ after, q = .code := by
  cases batch with
  | none => cases hr
  | some b =>
    have hhash : (hashField (reading w s c) (some b)).requests =
        (Reader.hashQuery c s.rollup b).requests w.node := by
      rw [requests_hashField, Option.toList_some, List.map_singleton, List.flatMap_singleton]
    rw [hhash] at hr ⊢
    obtain ⟨address, arguments, data, -, rfl⟩ := hasks
    obtain ⟨rfl, hdata, after, hafter, hcode⟩ := (w.node.makes_requests _).of_call_mem hr
    exact ⟨b, data, after, rfl, hdata, rfl, hafter, hcode⟩

/-- That a request for the hash of a batch is the only one, and is made after everything else was
obtained. -/
structure ComesLast (rs : List Request) (r : Request) (b : Value) (c : Contracts) : Prop where
  contracts : Contracts.ofValues s.manager s.legacy = .ok c
  call : ∃ data, Chain.sequencedBatch.callData? [s.rollup, b] = some data ∧
    r = .call c.manager.text data
  obtained : Obtained w s c
  place : ∃ after, rs = requestsBefore w s c ++ .chain :: r :: after ∧
    ∀ q ∈ requestsBefore w s c ++ .chain :: after, ¬ q.AsksHash

/-- A request for the hash of a batch comes last. -/
theorem comesLast_of_mem {c : Contracts} (hc : Contracts.ofValues s.manager s.legacy = .ok c)
    {r : Request} (hr : r ∈ (stateDocument w s batch).requests) (hasks : r.AsksHash) :
    ∃ b, batch = some b ∧ ComesLast w s (stateDocument w s batch).requests r b c := by
  have hbefore : ∀ stage ∈ stagesBefore w s c, r ∉ stage.requests :=
    fun stage hstage hr => not_asksHash_before w s c hstage hr hasks
  obtain ⟨hpasses, hrequests⟩ := (run_stateDocument w s batch hc).of_mem hr hbefore
  rw [flatMap_stagesBefore, Stage.requests_of] at hrequests
  have hlast : r ∈ (hashField (reading w s c) batch).requests := by
    rw [hrequests] at hr
    exact (List.mem_append.mp hr).resolve_left fun hr => not_asksHash_requestsBefore w s c hr hasks
  obtain ⟨b, data, after, hb, hdata, hcall, hhash, hcode⟩ :=
    exists_call_of_asksHash w s c batch hlast hasks
  have hobtained : Obtained w s c := by
    simp only [stagesBefore, List.forall_mem_cons] at hpasses
    obtain ⟨-, hblock, hnetwork, hverified, hchain, -⟩ := hpasses
    exact ⟨hblock, hnetwork, hverified, hchain⟩
  refine ⟨b, hb, hc, ⟨data, hdata, hcall⟩, hobtained, after, hhash ▸ hrequests, ?_⟩
  intro q hq
  rcases List.mem_append.mp hq with hq | hq
  · exact not_asksHash_requestsBefore w s c hq
  · rcases List.mem_cons.mp hq with rfl | hq
    · exact Request.not_asksHash_method _
    · rw [hcode q hq]
      exact Request.not_asksHash_method _

/-- A state that is shown was asked for in all stages. -/
theorem requests_stateDocument_of_ok {document : Value}
    (h : (stateDocument w s batch).result = .ok document) :
    ∃ c, Contracts.ofValues s.manager s.legacy = .ok c ∧ (stateDocument w s batch).requests =
      requestsBefore w s c ++
        (batch.toList.map (Reader.hashQuery c s.rollup)).flatMap (Query.requests w.node) := by
  simp only [stateDocument, Traced.bind_eq_ok_iff] at h
  obtain ⟨c, hc, block, hblock, id, hid, network, hnetwork, verified, hverified, chain, hchain,
    number, hnumber, moment, hmoment, hash, -, -⟩ := h
  refine ⟨c, ofValues_of_openChain hc, ?_⟩
  have hshown (line : String → Text) (document : Value) :
      ((liftM (w.clock.between 2 3) : Traced String) >>= fun took =>
        Traced.emit (.status (line took)) >>= fun _ => pure document).requests = [] :=
    Traced.requests_lift_bind _ fun took =>
      (Traced.requests_bind_silent _ fun _ => Traced.requests_pure _).trans
        (Traced.requests_status _)
  rw [stateDocument, Traced.requests_bind_of_ok _ hc, requests_openChain,
    Traced.requests_bind_of_ok _ hblock, Traced.requests_bind_of_ok _ hid,
    Traced.requests_bind_of_ok _ hnetwork, Traced.requests_bind_of_ok _ hverified,
    Traced.requests_bind_of_ok _ hchain, Traced.requests_bind_of_ok _ hnumber,
    Traced.requests_bind_of_ok _ hmoment,
    Traced.requests_bind_silent (hashField _ _) fun hash => hshown _ _]
  simp only [Traced.requests_lift, List.nil_append, requestsBefore, ← requests_hashField,
    List.append_assoc]
  rfl

/-- That requests are those of showing a state: of connecting, and then perhaps of reading. -/
def Reads (rs : List Request) : Prop :=
  rs = [] ∨ ∃ rest, rs = (connecting w s).requests ++ rest ∧ (rest = [] ∨
    ∃ c, Contracts.ofValues s.manager s.legacy = .ok c ∧ IsReading w.node c s.rollup batch rest)

theorem reads_stateDocument : Reads w s batch (stateDocument w s batch).requests := by
  cases hc : Contracts.ofValues s.manager s.legacy with
  | error f =>
    rw [requests_stateDocument_of_error w s batch hc]
    exact .inr ⟨[], (List.append_nil _).symm, .inl rfl⟩
  | ok c =>
    have hrun := run_stateDocument w s batch hc
    revert hrun
    generalize (stateDocument w s batch).requests = rs
    intro hrun
    cases hrun with
    | stopped => exact .inl rfl
    | last => exact .inr ⟨[], (List.append_nil _).symm, .inl rfl⟩
    | @passed _ _ rest _ hrest =>
      rcases isReading_of_run w s c batch hrest with hnone | hreading
      · exact .inr ⟨rest, rfl, .inl hnone⟩
      · exact .inr ⟨rest, rfl, .inr ⟨c, hc, hreading⟩⟩

/-- No request of connecting is a call. -/
theorem isCall_of_mem_connecting {r : Request} (h : r ∈ (connecting w s).requests) :
    r.isCall = false := by
  have hnone : ∀ r ∈ Connection.requests, r.isCall = false := by decide
  exact hnone r ((requests_connecting w s).subset h)

variable {w s batch} {rs : List Request}

/-- Showing a state makes five calls at most. -/
theorem Reads.length_calls (h : Reads w s batch rs) :
    (rs.filter Request.isCall).length ≤ 5 := by
  rcases h with rfl | ⟨rest, rfl, hrest⟩
  · exact Nat.zero_le 5
  · have hconnecting : (connecting w s).requests.filter Request.isCall = [] := by
      rw [List.filter_eq_nil_iff]
      intro r hr
      rw [isCall_of_mem_connecting w s hr]
      exact Bool.false_ne_true
    rw [List.filter_append, hconnecting, List.nil_append]
    rcases hrest with rfl | ⟨c, -, hreading⟩
    · exact Nat.zero_le 5
    · exact hreading.length_calls

/-- Showing a state calls the two contracts alone. -/
theorem Reads.address_of_mem (h : Reads w s batch rs) {address : String} {data : List UInt8}
    (hr : .call address data ∈ rs) : ∃ c, Contracts.ofValues s.manager s.legacy = .ok c ∧
      (address = c.manager.text ∨ address = c.legacy.text) := by
  rcases h with rfl | ⟨rest, rfl, hrest⟩
  · cases hr
  rcases List.mem_append.mp hr with hr | hr
  · cases isCall_of_mem_connecting w s hr
  rcases hrest with rfl | ⟨c, hc, hreading⟩
  · cases hr
  rcases hreading.exists_query_of_mem hr with hblock | hchain | ⟨q, hq, part, hpart, hmem⟩
  · cases hblock
  · cases hchain
  obtain ⟨rfl, -, -⟩ := hpart.of_call_mem hmem
  refine ⟨c, hc, ?_⟩
  simp only [stateQueries, List.mem_append, List.mem_cons, List.not_mem_nil, or_false,
    List.mem_map] at hq
  rcases hq with (rfl | rfl | rfl | rfl) | ⟨b, -, rfl⟩
  · exact .inl rfl
  · exact .inr rfl
  · exact .inr rfl
  · exact .inl rfl
  · exact .inl rfl

variable (w s batch)

/-- What showing a state asks of a node. After connecting it asks for the last block, then for the
chain, and then makes five calls at most, to the two contracts; the hash of a batch comes last. -/
structure Shows (rs : List Request) : Prop where
  connects : (connecting w s).requests <+: Connection.requests
  reads : Reads w s batch rs
  calls : (rs.filter Request.isCall).length ≤ 5
  addresses : ∀ address data, .call address data ∈ rs → ∃ c,
    Contracts.ofValues s.manager s.legacy = .ok c ∧
      (address = c.manager.text ∨ address = c.legacy.text)
  hash : ∀ r ∈ rs, r.AsksHash → ∃ b c, batch = some b ∧ ComesLast w s rs r b c

theorem shows_nil : Shows w s batch [] where
  connects := requests_connecting w s
  reads := .inl rfl
  calls := Nat.zero_le 5
  addresses _ _ h := absurd h List.not_mem_nil
  hash _ h := absurd h List.not_mem_nil

theorem shows_stateDocument : Shows w s batch (stateDocument w s batch).requests where
  connects := requests_connecting w s
  reads := reads_stateDocument w s batch
  calls := (reads_stateDocument w s batch).length_calls
  addresses _ _ hr := (reads_stateDocument w s batch).address_of_mem hr
  hash r hr hasks := by
    obtain ⟨address, arguments, data, hdata, rfl⟩ := hasks
    obtain ⟨c, hc, -⟩ := (reads_stateDocument w s batch).address_of_mem hr
    obtain ⟨b, hb, hlast⟩ := comesLast_of_mem w s batch hc hr ⟨_, _, _, hdata, rfl⟩
    exact ⟨b, c, hb, hlast⟩

end CommandLine

end BatchFrontier
