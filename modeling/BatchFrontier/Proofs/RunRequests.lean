import BatchFrontier.Proofs.RunOutcome
import BatchFrontier.Proofs.StateRequests

/-!
# What a run asks of a node

A run reads and never sends. Recording a range asks for nothing, building a call only connects, and
showing a state reads the last block, the chain and the two contracts. The one thing that a node is
asked for besides is code, where a call is answered with nothing. A run that succeeds has asked for
all that its command needs.
-/

namespace BatchFrontier

/-! ## Building a call -/

namespace Builder

/-- Reading a root asks for nothing. -/
theorem requests_root (name : Text) (v : Value) : (Root.ofValue name v).requests = [] := by
  refine Traced.requests_lift_bind _ fun bs => ?_
  unfold Root.ofBytes
  split
  · rfl
  · split <;> rfl

/-- Reading a proof asks for nothing. -/
theorem requests_readProof (proof : Value) : (readProof proof).requests = [] := by
  unfold readProof
  split <;> rfl

/-- Recognising a revert asks for nothing. -/
theorem requests_recogniseRevert {α : Type} (x : Traced α) :
    (recogniseRevert x).requests = x.requests := by
  rw [recogniseRevert, Traced.requests_resume]
  cases x.result <;> exact List.append_nil _

/-- Building a call for the manager at an address asks for nothing. -/
theorem requests_build (address : Address) (rollup chain : Value) (key : Except Fault Address)
    (v : Verification) :
    ((Builder.mk (.ofAddress address) rollup chain).build key v).requests = [] := by
  have hshape (auth : Authorization) (exitRoot stateRoot : Word) (proof : Proof) :
      ((Builder.mk (.ofAddress address) rollup chain).shape v auth exitRoot stateRoot
        proof).requests = [] :=
    Traced.requests_lift_bind _ fun _ => Traced.requests_lift_bind _ fun _ =>
      Traced.requests_pure _
  refine Traced.requests_lift_bind _ fun auth => ?_
  refine (Traced.requests_bind_silent _ fun exitRoot => ?_).trans (requests_root _ _)
  refine (Traced.requests_bind_silent _ fun stateRoot => ?_).trans (requests_root _ _)
  refine (Traced.requests_bind_silent _ fun proof => ?_).trans (requests_readProof _)
  -- The transaction is shaped by encoding alone, so that the last step is as silent as the others.
  refine (Traced.requests_bind_silent _ fun _ => Traced.requests_lift _).trans ?_
  rw [requests_recogniseRevert]
  exact hshape auth exitRoot stateRoot proof

end Builder

namespace CommandLine

variable (w : Surroundings) (s : Settings)

/-- What building a call asks of a node: it connects at most, and where the settings are refused or
the file cannot be read it asks for nothing. -/
structure Builds (inputs : Value) (rs : List Request) : Prop where
  connects : rs <+: Connection.requests
  refused : ∀ f, s.validate = .error f → rs = []
  unread : ∀ f, readInputs w inputs = .error f → rs = []

/-- A document about a call is built after connecting, which comes after the file was read. -/
theorem requests_callDocument (inputs last new beneficiary : Value) :
    (callDocument w s inputs last new beneficiary).requests =
      match readInputs w inputs with
      | .error _ => []
      | .ok _ => (connecting w s).requests := by
  cases hread : readInputs w inputs with
  | error f =>
    rw [callDocument, Traced.requests_bind_of_error _ ((Traced.lift_result _).trans hread)]
    rfl
  | ok p =>
    rw [callDocument, Traced.requests_bind_of_ok _ ((Traced.lift_result _).trans hread),
      Traced.requests_lift, List.nil_append, ← requests_openChain]
    refine Traced.requests_bind_silent _ fun c => ?_
    refine (Traced.requests_bind_silent _ fun call => ?_).trans (Builder.requests_build _ _ _ _ _)
    exact (Traced.requests_bind_silent _ fun _ => Traced.requests_pure _).trans
      (Traced.requests_status _)

/-! ## Runs -/

/-- Checking the settings asks for nothing. -/
theorem requests_precheck : (precheck s).requests = [] := by
  unfold precheck
  split <;> rfl

/-- What follows the check of the settings is all that is asked for, if they are not refused. -/
theorem requests_precheck_bind {α : Type} (next : Unit → Traced α) :
    (precheck s >>= next).requests =
      match s.validate with
      | .error _ => []
      | .ok _ => (next ()).requests := by
  have hresult := precheck_result s
  cases hvalid : s.validate with
  | error f => rw [Traced.requests_bind_of_error _ (hresult.trans hvalid), requests_precheck]
  | ok u =>
    rw [Traced.requests_bind_of_ok _ (hresult.trans hvalid), requests_precheck, List.nil_append]

/-- Recording a range asks for nothing. -/
theorem requests_recordSequence (ds : Directories) (fs : Files) (path : Text)
    (first last : Value) : (recordSequence ds fs path first last).document.requests = [] := by
  -- What is done to the database is left abstract, or else it would be carried out here.
  obtain ⟨record, hrecord⟩ : ∃ record, recordIn = record := ⟨_, rfl⟩
  unfold recordSequence
  rw [hrecord]
  split
  · rfl
  · split
    · rfl
    · dsimp only
      split <;> rfl

/-- The requests that a run makes. -/
def Outcome.requests (o : Outcome) : List Request := o.events.filterMap Event.request?

/-- What a command asks of a node. -/
def Invocation.AsksOnly (i : Invocation) (rs : List Request) : Prop :=
  match i.command with
  | .state batch => Shows w i.settings batch rs
  | .buildVerify inputs _ _ _ => Builds w i.settings inputs rs
  | .recordSequence _ _ _ => rs = []

variable {w}

/-- The work of a command asks for what the command has to ask for. -/
theorem Invocation.asksOnly_work (i : Invocation) :
    i.AsksOnly w (i.work w).document.requests := by
  obtain ⟨settings, isPretty, isDebug, command⟩ := i
  cases command with
  | state batch =>
    change Shows w settings batch (precheck settings >>= fun _ => _).requests
    rw [requests_precheck_bind]
    cases settings.validate with
    | error f => exact shows_nil w settings batch
    | ok u => exact shows_stateDocument w settings batch
  | buildVerify inputs last new beneficiary =>
    change Builds w settings inputs (precheck settings >>= fun _ => _).requests
    rw [requests_precheck_bind]
    cases hvalid : settings.validate with
    | error f => exact ⟨List.nil_prefix, fun _ _ => rfl, fun _ _ => rfl⟩
    | ok u =>
      dsimp only
      rw [requests_callDocument]
      refine ⟨?_, fun f hf => ?_, fun f hf => ?_⟩
      · split
        · exact List.nil_prefix
        · exact requests_connecting w settings
      · cases hvalid.symm.trans hf
      · rw [hf]
  | recordSequence first last db =>
    dsimp only [Invocation.AsksOnly, Invocation.work]
    exact requests_recordSequence _ _ _ _ _

/-- That all was asked for that a command needs to succeed. -/
def Invocation.AsksAll (i : Invocation) (w : Surroundings) (rs : List Request) : Prop :=
  match i.command with
  | .state batch => ∃ c, Contracts.ofValues i.settings.manager i.settings.legacy = .ok c ∧
      rs = requestsBefore w i.settings c ++
        (batch.toList.map (Reader.hashQuery c i.settings.rollup)).flatMap (Query.requests w.node)
  | .buildVerify _ _ _ _ => rs = (connecting w i.settings).requests
  | .recordSequence _ _ _ => rs = []

/-- Work that gives a document has asked for all that it needs. -/
theorem Invocation.asksAll_work {i : Invocation} {document : Value}
    (h : (i.work w).document.result = .ok document) :
    i.AsksAll w (i.work w).document.requests := by
  obtain ⟨settings, isPretty, isDebug, command⟩ := i
  cases command with
  | state batch =>
    obtain ⟨u, hchecked, hstate⟩ := Traced.bind_eq_ok_iff.mp h
    change AsksAll _ w (precheck settings >>= fun _ => _).requests
    rw [Traced.requests_bind_of_ok _ hchecked, requests_precheck, List.nil_append]
    exact requests_stateDocument_of_ok w settings batch hstate
  | buildVerify inputs last new beneficiary =>
    obtain ⟨u, hchecked, hcall⟩ := Traced.bind_eq_ok_iff.mp h
    obtain ⟨p, hread, -⟩ := Traced.bind_eq_ok_iff.mp hcall
    change AsksAll _ w (precheck settings >>= fun _ => _).requests
    rw [Traced.requests_bind_of_ok _ hchecked, requests_precheck, List.nil_append,
      requests_callDocument, (Traced.lift_result _).symm.trans hread]
    rfl
  | recordSequence first last db =>
    dsimp only [Invocation.AsksAll, Invocation.work]
    exact requests_recordSequence _ _ _ _ _

/-- The methods by which a node is only read. -/
def readingMethods : List String :=
  ["web3_clientVersion", "eth_chainId", "eth_blockNumber", "eth_getBlockByNumber", "eth_call"]

/-- That a request is made by a method by which a node is only read, or asks for code. -/
def IsRead (r : Request) : Prop := r.name ∈ readingMethods ∨ r = .code

theorem isRead_of_prefix {rs : List Request} (h : rs <+: Connection.requests) {r : Request}
    (hr : r ∈ rs) : IsRead r := by
  have hnames : ∀ r ∈ Connection.requests, r.name ∈ readingMethods := by decide
  exact .inl (hnames r (h.subset hr))

/-- Showing a state only reads. -/
theorem Reads.isRead {s : Settings} {batch : Option Value} {rs : List Request}
    (h : Reads w s batch rs) {r : Request} (hr : r ∈ rs) : IsRead r := by
  rcases h with rfl | ⟨rest, rfl, hrest⟩
  · cases hr
  rcases List.mem_append.mp hr with hr | hr
  · exact isRead_of_prefix (requests_connecting w s) hr
  rcases hrest with rfl | ⟨c, -, hreading⟩
  · cases hr
  rcases hreading.exists_query_of_mem hr with rfl | rfl | ⟨q, -, part, hpart, hmem⟩
  · exact .inl (by decide)
  · exact .inl (by decide)
  rcases hpart.kind_of_mem hmem with rfl | hname | rfl
  · exact .inl (by decide)
  · rw [IsRead, hname]
    exact .inl (by decide)
  · exact .inr rfl

/-- What a command asks of a node only reads. -/
theorem Invocation.AsksOnly.isRead {i : Invocation} {rs : List Request} (h : i.AsksOnly w rs)
    {r : Request} (hr : r ∈ rs) : IsRead r := by
  obtain ⟨settings, isPretty, isDebug, command⟩ := i
  cases command with
  | state batch => exact h.reads.isRead hr
  | buildVerify inputs last new beneficiary => exact isRead_of_prefix h.connects hr
  | recordSequence first last db =>
    obtain rfl : rs = [] := h
    cases hr

variable (w) (arguments : List Text)

/-- That a run only reads: it asks by methods that read, for nothing without a command, and for no
more than its command may ask for; if it succeeds, it has asked for all that its command needs. -/
structure OnlyReads : Prop where
  methods : ∀ r ∈ (run w arguments).requests, IsRead r
  idle : (∀ i, ¬ Asks w.environment arguments i) → (run w arguments).requests = []
  command : ∀ i, Asks w.environment arguments i → i.AsksOnly w (run w arguments).requests
  complete : ∀ i, Asks w.environment arguments i → (run w arguments).ending = .success →
    i.AsksAll w (run w arguments).requests

/-- A run only reads. -/
theorem run_onlyReads : OnlyReads w arguments := by
  have hidle (h : ∀ i, ¬ Asks w.environment arguments i) : (run w arguments).requests = [] := by
    rw [Outcome.requests, (run_of_not_asks h).2.2.1]
    rfl
  have hcommand (i : Invocation) (hi : Asks w.environment arguments i) :
      i.AsksOnly w (run w arguments).requests := by
    rw [run_of_asks hi, Outcome.requests, i.outcome_events w]
    exact i.asksOnly_work
  have hcomplete (i : Invocation) (hi : Asks w.environment arguments i)
      (hsuccess : (run w arguments).ending = .success) :
      i.AsksAll w (run w arguments).requests := by
    rw [run_of_asks hi] at hsuccess ⊢
    rw [Outcome.requests, i.outcome_events w]
    cases hprinted : i.printed w with
    | ok text =>
      obtain ⟨document, hdocument, -⟩ := bind_eq_ok_iff.mp hprinted
      exact Invocation.asksAll_work hdocument
    | error f => exact absurd hsuccess (Invocation.outcome_of_refused hprinted).1
  refine ⟨fun r hr => ?_, hidle, hcommand, hcomplete⟩
  by_cases hasks : ∃ i, Asks w.environment arguments i
  · obtain ⟨i, hi⟩ := hasks
    exact (hcommand i hi).isRead hr
  · rw [hidle fun i hi => hasks ⟨i, hi⟩] at hr
    cases hr

/-! ## Code -/

/-- The command `state` alone changes no settings. -/
theorem ofArguments_state (d : Defaults) (s : Settings) :
    Invocation.ofArguments d s ["state"] =
      .ok ⟨{ s with sequenceDb := .text d.sequenceDb }, false, false, .state none⟩ := by
  have hplaces : (Invocation.grammar.parse ["state"]).toOption.map
      (fun p => (p.values.length, p.command, p.extras)) = some (0, some ("state", []), []) := by
    decide +kernel
  have hstate : (Invocation.stateGrammar.parse []).toOption.map
      (fun p => (p.values.length, p.extras)) = some (0, []) := by decide +kernel
  cases hp : Invocation.grammar.parse ["state"] with
  | error e => simp [hp, Except.toOption] at hplaces
  | ok p =>
    cases hp' : Invocation.stateGrammar.parse [] with
    | error e => simp [hp', Except.toOption] at hstate
    | ok p' =>
      obtain ⟨values, command, missing, extras⟩ := p
      obtain ⟨values', command', missing', extras'⟩ := p'
      simp only [hp, Except.toOption, Option.map_some, Option.some.injEq, Prod.mk.injEq,
        List.length_eq_zero_iff] at hplaces
      simp only [hp', Except.toOption, Option.map_some, Option.some.injEq, Prod.mk.injEq,
        List.length_eq_zero_iff] at hstate
      obtain ⟨rfl, rfl, rfl⟩ := hplaces
      obtain ⟨rfl, rfl⟩ := hstate
      have hread : Invocation.readCommand "state" [] = .ok (.state none, []) := by
        simp only [Invocation.readCommand, hp']
        rfl
      rw [ofArguments_eq_ok_iff]
      exact ⟨_, _, _, _, _, hp, rfl, hread, rfl, rfl⟩

/-- The two contracts that `codeless` names. -/
def codelessContracts : Contracts where
  manager := ⟨List.replicate 19 0 ++ [1], rfl⟩
  legacy := ⟨List.replicate 19 0 ++ [2], rfl⟩

/-- A node without contracts: calls of them are answered with nothing. It fails when it is asked for
code. -/
def codelessNode : Chain.Node where
  replies :=
    [("web3_clientVersion", .response (.ofResult (.text "node"))),
     ("eth_chainId", .response (.ofResult (.text "0x1"))),
     ("eth_blockNumber", .response (.ofResult (.text "0x10"))),
     ("eth_getBlockByNumber", .response (.ofResult .nothing)),
     ("eth_getCode",
       .raised (.reported "ConnectionError" ⟨.system, [.text "code was requested"], []⟩))]
  calls :=
    [⟨"0x0000000000000000000000000000000000000001", "0x", .response (.ofResult (.text "0x"))⟩,
     ⟨"0x0000000000000000000000000000000000000002", "0x", .response (.ofResult (.text "0x"))⟩]

/-- Surroundings with such a node. -/
def codeless : Surroundings where
  environment := [("RPC_URL", "http://localhost:8545"),
    ("ROLLUP_MANAGER_ADDRESS", "0x0000000000000000000000000000000000000001"),
    ("LEGACY_ROLLUP_ADDRESS", "0x0000000000000000000000000000000000000002")]
  node := codelessNode
  clock := ⟨[]⟩
  now := 0
  files := []
  key := .ok Builder.countingAddress
  stamp := ""

/-- The settings of `codeless`. -/
def codelessSettings : Settings :=
  ⟨.text "http://localhost:8545", .integer 1, .integer 1,
    .text "0x0000000000000000000000000000000000000001",
    .text "0x0000000000000000000000000000000000000002", .text Defaults.builtin.sequenceDb⟩

/-- Calls of the manager are answered with nothing. -/
theorem send_codelessNode (data : List UInt8) :
    (codelessNode.send codelessContracts.manager data).result = .ok [] := by
  have htext : codelessContracts.manager.text =
      "0x0000000000000000000000000000000000000001" := by
    have hdigits : (Hex.write codelessContracts.manager.bytes).all
        (fun c => decide (c.toNat < 97)) = true := by decide
    have hplain (c : Char) (hc : c ∈ Hex.write codelessContracts.manager.bytes) : c.toNat < 97 :=
      of_decide_eq_true (List.all_eq_true.mp hdigits c hc)
    rw [Address.text, Address.digits_of_lt _ hplain]
    rfl
  have hbegins : Text.beginsWith (Hex.writeMarked data) "0x" = true := by
    simp only [Text.beginsWith, Hex.writeMarked, Text.ofString, String.toList_ofList]
    rfl
  have htold : (codelessNode.quantityOf Chain.Node.chainIdMethod).result.isOk = true := by
    decide +kernel
  have haddress : (Text.ofString "0x0000000000000000000000000000000000000001").chars.map
      Char.toLower = codelessContracts.manager.text.toList.map Char.toLower := by
    rw [htext]
    rfl
  exact Chain.Node.send_of_rule (exists_eq_ok_of_isOk htold) haddress hbegins rfl

/-- Where the manager has no code, the node is asked for code. -/
theorem asksForCode_codeless : ∃ r ∈ (run codeless ["state"]).requests,
    r.name ∉ readingMethods := by
  have hasks : Asks codeless.environment ["state"]
      ⟨codelessSettings, false, false, .state none⟩ := ⟨_, _, rfl, ofArguments_state _ _⟩
  have hvalid : codelessSettings.validate = .ok () := rfl
  have hopen : (openChain codeless codelessSettings).result.isOk = true := by decide +kernel
  have hcontracts : (Contracts.ofValues codelessSettings.manager
      codelessSettings.legacy).toOption = some codelessContracts := by decide +kernel
  have hblock : (reading codeless codelessSettings codelessContracts).latestBlock.result.isOk =
      true := by decide +kernel
  have hnetwork : (codelessNode.chainId.result >>= Network.nameOfNumber).isOk = true := by
    decide +kernel
  have hdata : (Chain.rollupData.callData? [.integer 1]).isSome = true := rfl
  obtain ⟨data, hdata⟩ := Option.isSome_iff_exists.mp hdata
  have hcode : .code ∈ (Reader.recordQuery codelessContracts (.integer 1)).requests codelessNode :=
    Chain.Node.code_mem_requests hdata (send_codelessNode data) rfl rfl
  refine ⟨.code, ?_, by decide⟩
  rw [run_of_asks hasks, Outcome.requests, Invocation.outcome_events]
  change Request.code ∈ (precheck codelessSettings >>= fun _ =>
    stateDocument codeless codelessSettings none).requests
  rw [requests_precheck_bind, hvalid]
  obtain ⟨c, hc⟩ := exists_eq_ok_of_isOk hopen
  obtain rfl : codelessContracts = c := by
    rw [ofValues_of_openChain hc] at hcontracts
    exact (Option.some.inj hcontracts).symm
  obtain ⟨block, hblock⟩ := exists_eq_ok_of_isOk hblock
  obtain ⟨name, hname⟩ := exists_eq_ok_of_isOk hnetwork
  obtain ⟨id, hid, hname⟩ := bind_eq_ok_iff.mp hname
  obtain ⟨more, -, hverified⟩ :=
    Reader.requests_latestVerifiedBatch codelessNode codelessContracts (.integer 1)
  refine Traced.mem_requests_bind_of_ok hc (Traced.mem_requests_bind_of_ok hblock
    (Traced.mem_requests_bind_of_ok hid (Traced.mem_requests_bind_of_ok
      ((Traced.lift_result _).trans hname) (Traced.mem_requests_bind _ ?_))))
  exact hverified ▸ List.mem_append_left _ hcode

end CommandLine

end BatchFrontier
