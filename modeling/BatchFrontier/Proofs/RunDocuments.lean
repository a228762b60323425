import BatchFrontier.Proofs.LeadingFlag
import BatchFrontier.Proofs.LedgerFile
import BatchFrontier.Proofs.MissingBlock
import BatchFrontier.Proofs.PlainTexts
import BatchFrontier.Proofs.VerificationCall

/-!
# What a run prints

A run prints exactly if it succeeds. It then prints one object with its names in order, whose values
are those that were read or built: nothing is printed before the last of them is there, so that no
failure leaves a part of a document. How the document is laid out changes nothing else.
-/

namespace BatchFrontier

namespace Builder

/-- A computation whose reverts are recognised gives what it gave. -/
theorem ok_of_recogniseRevert {α : Type} {x : Traced α} {a : α}
    (h : (recogniseRevert x).result = .ok a) : x.result = .ok a := by
  rw [recogniseRevert, Traced.resume_result] at h
  cases hx : x.result with
  | ok b =>
    rw [hx] at h
    exact h
  | error f =>
    rw [hx] at h
    cases h

/-- A call that is built for the manager at an address names this address. -/
theorem recipient_of_build {address : Address} {rollup chain : Value} {key : Except Fault Address}
    {v : Verification} {call : UnsignedCall}
    (h : ((Builder.mk (.ofAddress address) rollup chain).build key v).result = .ok call) :
    call.recipient = .text address.text := by
  simp only [build, Traced.bind_eq_ok_iff] at h
  obtain ⟨auth, -, exitRoot, -, stateRoot, -, proof, -, transaction, hshaped, hcall⟩ := h
  have hshape := ok_of_recogniseRevert hshaped
  simp only [shape, Manager.ofAddress, Traced.bind_eq_ok_iff] at hshape
  obtain ⟨beneficiary, -, data, -, htransaction⟩ := hshape
  obtain rfl := Except.ok.inj htransaction
  rw [Traced.lift_result, callOf_shaped] at hcall
  obtain rfl := Except.ok.inj hcall
  rfl

end Builder

namespace CommandLine

open Json

/-! ## The state of a rollup -/

/-- What is found out about the state of a rollup. -/
structure Findings where
  /-- The number of the last block, if there is one. -/
  head : Option Int
  network : Text
  rollup : Int
  verified : Int
  chain : Int
  /-- The hash of a batch, if a batch was asked for. -/
  hash : Option (List UInt8)
  moment : String

/-- The number of a block as it is written. -/
def headValue (head : Option Int) : Value := (head.map .integer).getD .nothing

/-- The field with the hash of a batch, if there is one. -/
def hashFields : Option (List UInt8) → List (Text × Value)
  | none => []
  | some hash => [("accInputHash", .text (Hex.writeMarked hash))]

namespace Findings

/-- The fields of the document about a state, in order. -/
def fields (t : Findings) : List (Text × Value) :=
  let common : List (Text × Value) :=
    [("generatedAtUtc", .text t.moment), ("l1Block", headValue t.head),
      ("l2ChainId", .integer t.chain), ("lastVerifiedBatch", .integer t.verified),
      ("mode", .text "rollup_state"), ("network", .text t.network),
      ("rollupId", .integer t.rollup)]
  hashFields t.hash ++ common

/-- The fields of the document about a state as they are found. -/
def found (t : Findings) : List (Text × Value) :=
  ("mode", .text "rollup_state") :: ("network", .text t.network) ::
    ("rollupId", .integer t.rollup) :: ("lastVerifiedBatch", .integer t.verified) ::
      ("l2ChainId", .integer t.chain) :: ("l1Block", headValue t.head) ::
        ("generatedAtUtc", .text t.moment) :: hashFields t.hash

/-- That findings are what the reads of a node give. There is no head exactly if the node has no
block, and a hash exactly if a batch is asked for. -/
structure Are (t : Findings) (w : Surroundings) (s : Settings) (c : Contracts)
    (batch : Option Value) : Prop where
  rollup : s.rollup = .integer t.rollup
  verified : (Reader.latestVerifiedBatch ⟨.ofNode w.node c, s.rollup⟩).result = .ok t.verified
  chain : (Reader.chainId ⟨.ofNode w.node c, s.rollup⟩).result = .ok t.chain
  headless : t.head = none ↔ w.node.HasNoBlock
  head : ∀ m ∈ t.head, ∃ header, w.node.latestBlock.result = .ok header ∧
    (header.named "number" >>= Value.toInteger) = .ok m
  network : ∃ id, w.node.chainId.result = .ok id ∧ t.network = Network.name (.integer id)
  asked : t.hash.isSome = batch.isSome
  hash : ∀ b ∈ batch, ∀ bs ∈ t.hash,
    (Reader.accInputHash ⟨.ofNode w.node c, s.rollup⟩ b).result = .ok bs
  moment : Calendar.momentText w.now = .ok t.moment

/-- The fields of the document about a state are put in order and can be written. -/
theorem arranges {t : Findings} (hnetwork : IsPlainText t.network)
    (hmoment : IsPlainText t.moment) : Arranges t.fields t.found where
  perm := by
    have hplaces : [6, 5, 4, 3, 0, 1, 2].Perm (List.range 7) := by decide
    have hcommon := hplaces.map fun k => t.found.getD k ("", .nothing)
    exact List.perm_append_comm.trans (hcommon.append_right (hashFields t.hash))
  order := by
    obtain ⟨head, network, rollup, verified, chain, hash, moment⟩ := t
    cases hash with
    | none =>
      exact @inOrder_of_names _ ["generatedAtUtc", "l1Block", "l2ChainId", "lastVerifiedBatch",
        "mode", "network", "rollupId"] rfl (by decide)
    | some hash =>
      exact @inOrder_of_names _ ["accInputHash", "generatedAtUtc", "l1Block", "l2ChainId",
        "lastVerifiedBatch", "mode", "network", "rollupId"] rfl (by decide)
  plain := by
    have hhead : IsPlain (headValue t.head) := by
      cases t.head with
      | none => exact .nothing
      | some m => exact .integer m
    have hhash : ∀ f ∈ hashFields t.hash, IsPlainText f.1 ∧ IsPlain f.2 := by
      cases t.hash with
      | none => exact fun f hf => absurd hf List.not_mem_nil
      | some hash =>
        have hname := isPlainText_ofString (s := "accInputHash") (by decide)
        have hvalue := IsPlain.text (isPlainText_writeMarked hash)
        exact List.forall_mem_singleton.mpr ⟨hname, hvalue⟩
    have hmode := isPlainText_ofString (s := "rollup_state") (by decide)
    simp only [found, List.forall_mem_cons]
    exact ⟨⟨isPlainText_ofString (by decide), .text hmode⟩,
      ⟨isPlainText_ofString (by decide), .text hnetwork⟩,
      ⟨isPlainText_ofString (by decide), .integer _⟩,
      ⟨isPlainText_ofString (by decide), .integer _⟩,
      ⟨isPlainText_ofString (by decide), .integer _⟩,
      ⟨isPlainText_ofString (by decide), hhead⟩,
      ⟨isPlainText_ofString (by decide), .text hmoment⟩, hhash⟩
  ne_nil := List.cons_ne_nil _ _

end Findings

/-- The number of the last block is that of its header, and there is none without a header. -/
theorem exists_head_of_blockNumber {block : Option Value} {v : Value}
    (h : blockNumber block = .ok v) : ∃ head : Option Int, v = headValue head ∧
      (head = none ↔ block = none) ∧ ∀ m ∈ head, ∃ header, block = some header ∧
        (header.named "number" >>= Value.toInteger) = .ok m := by
  cases block with
  | none =>
    refine ⟨none, (Except.ok.inj h).symm, iff_of_true rfl rfl, ?_⟩
    intro m hm
    cases hm
  | some header =>
    have hnumber : blockNumber (some header) =
        (header.named "number" >>= fun v => v.toInteger >>= fun m => .ok (.integer m)) := rfl
    rw [hnumber] at h
    obtain ⟨number, hnamed, h⟩ := bind_eq_ok_iff.mp h
    obtain ⟨m, hm, h⟩ := bind_eq_ok_iff.mp h
    refine ⟨some m, (Except.ok.inj h).symm, by simp, ?_⟩
    rintro m' hm'
    obtain rfl := Option.some.inj hm'
    exact ⟨header, rfl, bind_eq_ok_iff.mpr ⟨number, hnamed, hm⟩⟩

/-- A hash is found exactly if a batch is asked for. -/
theorem exists_hash_of_hashField {r : Reader} {batch : Option Value}
    {fields : List (Text × Value)} (h : (hashField r batch).result = .ok fields) :
    ∃ hash, fields = hashFields hash ∧ hash.isSome = batch.isSome ∧
      ∀ b ∈ batch, ∀ bs ∈ hash, (r.accInputHash b).result = .ok bs := by
  cases batch with
  | none =>
    refine ⟨none, (Except.ok.inj h).symm, rfl, ?_⟩
    intro b hb
    cases hb
  | some b =>
    obtain ⟨bs, hbs, hfields⟩ := Traced.bind_eq_ok_iff.mp h
    refine ⟨some bs, (Except.ok.inj hfields).symm, rfl, ?_⟩
    rintro b' hb' bs' hbs'
    obtain rfl := Option.some.inj hb'
    obtain rfl := Option.some.inj hbs'
    exact hbs

theorem nameOfNumber_eq_ok {id : Int} {name : Text} (h : Network.nameOfNumber id = .ok name) :
    name = Network.name (.integer id) := by
  obtain ⟨digits, -, hname⟩ := bind_eq_ok_iff.mp h
  exact (Except.ok.inj hname).symm

/-- A document about a state shows what the reads of the node give. -/
theorem exists_findings_of_stateDocument {w : Surroundings} {s : Settings} {batch : Option Value}
    {rollup : Int} (hrollup : s.rollup = .integer rollup) {document : Value}
    (h : (stateDocument w s batch).result = .ok document) :
    ∃ c t, Contracts.ofValues s.manager s.legacy = .ok c ∧ Findings.Are t w s c batch ∧
      document = .record t.found ∧ Arranges t.fields t.found := by
  simp only [stateDocument, Traced.bind_eq_ok_iff, Traced.lift_result, Traced.pure_result] at h
  obtain ⟨c, hc, block, hblock, id, hid, network, hnetwork, verified, hverified, chain, hchain,
    number, hnumber, moment, hmoment, hash, hhash, took, -, u, -, hdocument⟩ := h
  obtain ⟨head, rfl, hnone, hhead⟩ := exists_head_of_blockNumber hnumber
  obtain ⟨hash, rfl, hasked, hfound⟩ := exists_hash_of_hashField hhash
  obtain rfl := nameOfNumber_eq_ok hnetwork
  have hmissing := Reader.latestBlock_none_iff w.node c s.rollup
  have hheadless : head = none ↔ w.node.HasNoBlock := by
    rw [hnone, ← hmissing, hblock]
    simp
  refine ⟨c, ⟨head, Network.name (.integer id), rollup, verified, chain, hash, moment⟩,
    ofValues_of_openChain hc, ?_, ?_, ?_⟩
  · refine ⟨hrollup, hverified, hchain, hheadless, ?_, ⟨id, hid, rfl⟩, hasked, hfound, hmoment⟩
    intro m hm
    obtain ⟨header, hheader, hnumber⟩ := hhead m hm
    rw [hheader] at hblock
    exact ⟨header, Reader.latestBlock_of_some c s.rollup hblock, hnumber⟩
  · rw [hrollup] at hdocument
    exact (Except.ok.inj hdocument).symm
  · exact Findings.arranges (isPlainText_networkName id) (isPlainText_momentText hmoment)

/-! ## Calls and ranges -/

/-- The fields of the document about a call, in order. -/
def callFields (call : UnsignedCall) : List (Text × Value) :=
  [("data", .text (Hex.writeMarked call.data)), ("to", call.recipient)]

/-- A document about a call shows the call that is built from what the file holds. -/
theorem exists_call_of_callDocument {w : Surroundings} {s : Settings}
    {inputs last new beneficiary document : Value}
    (h : (callDocument w s inputs last new beneficiary).result = .ok document) :
    ∃ c p call fields, Contracts.ofValues s.manager s.legacy = .ok c ∧
      readInputs w inputs = .ok p ∧
      ((Builder.mk (.ofAddress c.manager) s.rollup s.l1Chain).build w.key
        ⟨last, new, p, beneficiary⟩).result = .ok call ∧
      document = .record fields ∧ Arranges (callFields call) fields := by
  simp only [callDocument, Traced.bind_eq_ok_iff, Traced.lift_result, Traced.pure_result] at h
  obtain ⟨p, hp, c, hc, call, hcall, u, -, hdocument⟩ := h
  refine ⟨c, p, call, _, ofValues_of_openChain hc, hp, hcall, (Except.ok.inj hdocument).symm, ?_⟩
  have hto := isPlainText_ofString (s := "to") (by decide)
  have hdata := isPlainText_ofString (s := "data") (by decide)
  refine ⟨List.Perm.swap _ _ _, @inOrder_of_names _ ["data", "to"] rfl (by decide), ?_,
    List.cons_ne_nil _ _⟩
  rw [Builder.recipient_of_build hcall]
  exact List.forall_mem_cons.mpr ⟨⟨hto, .text (isPlainText_address c.manager)⟩,
    List.forall_mem_singleton.mpr ⟨hdata, .text (isPlainText_writeMarked call.data)⟩⟩

/-- The document about a range shows the two ends, which are integers of 64 bits. -/
theorem exists_range_of_recordSequence {ds : Directories} {fs : Files} {path : Text}
    {first last document : Value}
    (hfirst : Take.integer.Gives first) (hlast : Take.integer.Gives last)
    (h : (recordSequence ds fs path first last).document.result = .ok document) :
    ∃ f t : Int64, first = .integer f.toInt ∧ last = .integer t.toInt ∧
      document = .record (rangeFields f t) ∧ Arranges (rangeFields f t) (rangeFields f t) := by
  rw [recordSequence_result, bind_eq_ok_iff] at h
  obtain ⟨c, -, h⟩ := h
  rw [recordIn_result] at h
  simp only [bind_eq_ok_iff] at h
  obtain ⟨u, ⟨u', -, u'', hadd, -⟩, hdocument⟩ := h
  obtain ⟨key, cell, -, -, hkey, hcell, -⟩ := Ledger.recorded_of_add isTableName_default hadd
  obtain ⟨f, rfl, -⟩ := Store.Cell.integer_of_gives hfirst hkey
  obtain ⟨t, rfl, -⟩ := Store.Cell.integer_of_gives hlast hcell
  exact ⟨f, t, rfl, rfl, (Except.ok.inj hdocument).symm, arranges_rangeFields f t⟩

/-! ## Commands -/

/-- That fields are those of the document which a command has to show: the findings about the state
of the rollup, the call that is built from what the file holds, or the two ends of the range. -/
def Invocation.Yields (i : Invocation) (w : Surroundings) (fields : List (Text × Value)) : Prop :=
  match i.command with
  | .state batch => ∃ c t, Contracts.ofValues i.settings.manager i.settings.legacy = .ok c ∧
      Findings.Are t w i.settings c batch ∧ fields = t.fields
  | .buildVerify inputs last new beneficiary =>
    ∃ c p call, Contracts.ofValues i.settings.manager i.settings.legacy = .ok c ∧
      readInputs w inputs = .ok p ∧
      ((Builder.mk (.ofAddress c.manager) i.settings.rollup i.settings.l1Chain).build w.key
        ⟨last, new, p, beneficiary⟩).result = .ok call ∧ fields = callFields call
  | .recordSequence first last _ => ∃ f t : Int64, first = .integer f.toInt ∧
      last = .integer t.toInt ∧ fields = rangeFields f t

/-- The id of a rollup that comes from arguments and passes the check is an integer. -/
theorem exists_rollup_of_precheck {s : Settings} (hrollup : Take.integer.Gives s.rollup) {u : Unit}
    (h : (precheck s).result = .ok u) : ∃ n, s.rollup = .integer n := by
  rw [precheck_result, Settings.validate_eq] at h
  simp only [bind_eq_ok_iff] at h
  obtain ⟨-, -, -, -, -, -, isBad, hsign, -⟩ := h
  rcases hrollup with ⟨n, hn, -⟩ | hempty
  · exact ⟨n, hn⟩
  · rw [hempty] at hsign
    cases hsign

/-- A command whose work gives a document gives the one that it has to show. -/
theorem Invocation.yields_of_work {i : Invocation} {w : Surroundings}
    (hrollup : Take.integer.Gives i.settings.rollup) (hfits : i.command.Fits) {document : Value}
    (h : (i.work w).document.result = .ok document) :
    ∃ sorted fields, document = .record fields ∧ Arranges sorted fields ∧ i.Yields w sorted := by
  obtain ⟨settings, isPretty, isDebug, command⟩ := i
  cases command with
  | state batch =>
    obtain ⟨u, hchecked, hstate⟩ := Traced.bind_eq_ok_iff.mp h
    obtain ⟨rollup, hrollup⟩ := exists_rollup_of_precheck hrollup hchecked
    obtain ⟨c, t, hcontracts, hare, hdocument, harranges⟩ :=
      exists_findings_of_stateDocument hrollup hstate
    exact ⟨t.fields, t.found, hdocument, harranges, c, t, hcontracts, hare, rfl⟩
  | buildVerify inputs last new beneficiary =>
    obtain ⟨u, -, hbuilt⟩ := Traced.bind_eq_ok_iff.mp h
    obtain ⟨c, p, call, fields, hcontracts, hp, hcall, hdocument, harranges⟩ :=
      exists_call_of_callDocument hbuilt
    exact ⟨callFields call, fields, hdocument, harranges, c, p, call, hcontracts, hp, hcall, rfl⟩
  | recordSequence first last db =>
    obtain ⟨f, t, hf, ht, hdocument, harranges⟩ :=
      exists_range_of_recordSequence hfits.1 hfits.2.1 h
    exact ⟨rangeFields f t, rangeFields f t, hdocument, harranges, f, t, hf, ht, rfl⟩

/-- A command that succeeds prints the document that it has to show, as one object. -/
theorem Invocation.isObject_of_success {i : Invocation} {w : Surroundings}
    (hrollup : Take.integer.Gives i.settings.rollup) (hfits : i.command.Fits)
    (h : (i.outcome w).ending = .success) :
    ∃ fields, IsObject i.layout fields (i.outcome w).output ∧ i.Yields w fields := by
  cases hprinted : i.printed w with
  | error f => exact absurd h (outcome_of_refused hprinted).1
  | ok text =>
    obtain ⟨document, hwork, hprint⟩ := bind_eq_ok_iff.mp hprinted
    obtain ⟨sorted, fields, rfl, harranges, hyields⟩ := yields_of_work hrollup hfits hwork
    refine ⟨sorted, ?_, hyields⟩
    rw [outcome_of_ok hprinted]
    exact harranges.isObject hprint

/-! ## Layouts -/

/-- That an outcome is another one but for the layout of its document. -/
structure Relaid (l l' : Layout) (o o' : Outcome) : Prop where
  ending : o'.ending = o.ending
  errorOutput : o'.errorOutput = o.errorOutput
  events : o'.events = o.events
  files : o'.files = o.files
  output : o.ending = .success →
    ∃ fields, IsObject l fields o.output ∧ IsObject l' fields o'.output

/-- A command leaves the same with another layout, but for the layout of its document. -/
theorem Invocation.relaid_outcome {i : Invocation} {w : Surroundings}
    (hrollup : Take.integer.Gives i.settings.rollup) (hfits : i.command.Fits) (isPretty : Bool) :
    Relaid i.layout { i with isPretty := isPretty }.layout (i.outcome w)
      ({ i with isPretty := isPretty }.outcome w) := by
  have hwork : ({ i with isPretty := isPretty } : Invocation).work w = i.work w := rfl
  have hprinted' : ({ i with isPretty := isPretty } : Invocation).printed w =
      (i.work w).document.result >>= print { i with isPretty := isPretty }.layout := by
    rw [printed, hwork]
  cases hprinted : i.printed w with
  | error f =>
    have hrefused : ({ i with isPretty := isPretty } : Invocation).printed w = .error f := by
      rw [hprinted']
      rcases bind_eq_error_iff.mp hprinted with hfailed | ⟨document, hdocument, hprint⟩
      · rw [hfailed]
        rfl
      · rw [hdocument]
        exact print_layout.1 f hprint
    rw [outcome_of_error hprinted, outcome_of_error hrefused, hwork]
    cases f.isExpected with
    | true => exact ⟨rfl, rfl, rfl, rfl, fun h => (by cases h)⟩
    | false => exact ⟨rfl, rfl, rfl, rfl, fun h => (by cases h)⟩
  | ok text =>
    obtain ⟨document, hdocument, hprint⟩ := bind_eq_ok_iff.mp hprinted
    obtain ⟨text', hprint'⟩ := print_layout.2 text hprint
    have hrelaid : ({ i with isPretty := isPretty } : Invocation).printed w = .ok text' := by
      rw [hprinted', hdocument]
      exact hprint'
    rw [outcome_of_ok hprinted, outcome_of_ok hrelaid, hwork]
    refine ⟨rfl, rfl, rfl, rfl, fun _ => ?_⟩
    obtain ⟨sorted, fields, rfl, harranges, -⟩ := yields_of_work hrollup hfits hdocument
    exact ⟨sorted, harranges.isObject hprint, harranges.isObject hprint'⟩

/-! ## Runs -/

/-- What runs with certain arguments print. -/
structure PrintsItsDocument (w : Surroundings) (arguments : List Text) : Prop where
  /-- There is output exactly if the run succeeds. -/
  printed_iff : (run w arguments).output ≠ "" ↔ (run w arguments).ending = .success
  /-- Where it does not succeed, it names its failure or a fault escapes. -/
  ended : (run w arguments).ending = .success ∨ (run w arguments).ending = .failure ∨
    ∃ f, (run w arguments).ending = .escape f
  /-- The output of a run that succeeds is the object that its command has to show. -/
  document : (run w arguments).ending = .success → ∃ i fields, Asks w.environment arguments i ∧
    IsObject i.layout fields (run w arguments).output ∧ i.Yields w fields
  /-- Arguments that ask for the same in another layout change nothing but the layout. -/
  relaid : ∀ i arguments' i', Asks w.environment arguments i → Asks w.environment arguments' i' →
    i' = { i with isPretty := i'.isPretty } →
      Relaid i.layout i'.layout (run w arguments) (run w arguments')
  /-- The flag for a document over several lines, before all other arguments, is such a change. -/
  pretty : ∃ l, Relaid l .pretty (run w arguments) (run w ("--pretty" :: arguments))

section

variable {w : Surroundings} {arguments : List Text}

/-- Arguments that are accepted ask for a command, unless the environment is misread: then the run
ends at once, with any arguments. -/
theorem Accepted.asks_or_escape (h : Accepted arguments) :
    (∃ i, Asks w.environment arguments i) ∨
      ∃ f, ∀ arguments', run w arguments' = ⟨.escape f, "", "", [], w.files⟩ := by
  cases hsettings : startSettings w.environment with
  | error f =>
    refine .inr ⟨f, fun arguments' => ?_⟩
    rw [run_eq, hsettings]
  | ok start =>
    obtain ⟨i, hi⟩ := h.exists_invocation start.1 start.2
    exact .inl ⟨i, start.1, start.2, hsettings, hi⟩

/-- A command that is carried out succeeds, names its failure or escapes. -/
theorem ending_of_asks {i : Invocation} (h : Asks w.environment arguments i) :
    (run w arguments).ending = .success ∨ (run w arguments).ending = .failure ∨
      ∃ f, (run w arguments).ending = .escape f := by
  rw [run_of_asks h]
  rcases i.outcome_of_printed w with ⟨-, hreported⟩ | ⟨-, hescape⟩
  · cases hreported with
    | success _ hending _ => exact .inl hending
    | failure _ hending _ _ => exact .inr (.inl hending)
  · exact .inr (.inr hescape)

/-- A run with accepted arguments prints its document exactly if it succeeds. -/
theorem run_printsItsDocument (h : Accepted arguments) : PrintsItsDocument w arguments := by
  have hdocument : (run w arguments).ending = .success → ∃ i fields,
      Asks w.environment arguments i ∧ IsObject i.layout fields (run w arguments).output ∧
        i.Yields w fields := by
    intro hending
    rcases h.asks_or_escape (w := w) with ⟨i, hasks⟩ | ⟨f, hrun⟩
    · obtain ⟨hrollup, hfits⟩ := hasks.fits
      rw [run_of_asks hasks] at hending ⊢
      obtain ⟨fields, hobject, hyields⟩ := i.isObject_of_success hrollup hfits hending
      exact ⟨i, fields, hasks, hobject, hyields⟩
    · rw [hrun] at hending
      cases hending
  have hrelaid (i : Invocation) (arguments' : List Text) (i' : Invocation)
      (hasks : Asks w.environment arguments i) (hasks' : Asks w.environment arguments' i')
      (hsame : i' = { i with isPretty := i'.isPretty }) :
      Relaid i.layout i'.layout (run w arguments) (run w arguments') := by
    obtain ⟨hrollup, hfits⟩ := hasks.fits
    rw [run_of_asks hasks, run_of_asks hasks', hsame]
    exact i.relaid_outcome hrollup hfits i'.isPretty
  refine ⟨⟨fun houtput => ?_, fun hending => ?_⟩, ?_, hdocument, hrelaid, ?_⟩
  · by_contra hending
    exact houtput (output_of_not_success hending)
  · obtain ⟨i, fields, -, hobject, -⟩ := hdocument hending
    exact hobject.ne_empty
  · rcases h.asks_or_escape (w := w) with ⟨i, hasks⟩ | ⟨f, hrun⟩
    · exact ending_of_asks hasks
    · exact .inr (.inr ⟨f, by rw [hrun]⟩)
  · rcases h.asks_or_escape (w := w) with ⟨i, hasks⟩ | ⟨f, hrun⟩
    · exact ⟨i.layout, hrelaid i _ _ hasks hasks.pretty rfl⟩
    · refine ⟨.compact, ?_⟩
      rw [hrun arguments, hrun ("--pretty" :: arguments)]
      exact ⟨rfl, rfl, rfl, rfl, fun hending => (by cases hending)⟩

end

/-- A node without blocks whose first contract answers nothing and whose second answers seven. -/
def sevenNode : Chain.Node where
  replies :=
    [("web3_clientVersion", .response (.ofResult (.text "node"))),
     ("eth_chainId", .response (.ofResult (.text "0x1"))),
     ("eth_blockNumber", .response (.ofResult (.text "0x10"))),
     ("eth_getBlockByNumber", .response (.ofResult .nothing))]
  calls :=
    [⟨"0x0000000000000000000000000000000000000001", "0x", .response (.ofResult (.text "0x"))⟩,
     ⟨"0x0000000000000000000000000000000000000002", "0x", .response
       (.ofResult (.text ("0x" ++ String.ofList (List.replicate 63 '0') ++ "7")))⟩]

/-- Surroundings with that node, where its two contracts are named. -/
def answered : Surroundings :=
  { alone [("RPC_URL", "http://localhost:8545"),
      ("ROLLUP_MANAGER_ADDRESS", "0x0000000000000000000000000000000000000001"),
      ("LEGACY_ROLLUP_ADDRESS", "0x0000000000000000000000000000000000000002")] [] with
    node := sevenNode }

/-- The verified batch and the chain id that a command reads, if it is to show a state. -/
def Invocation.stateRead? (i : Invocation) (w : Surroundings) : Option (Int × Int) :=
  match i.command with
  | .state _ => do
    let c ← (Contracts.ofValues i.settings.manager i.settings.legacy).toOption
    let r : Reader := ⟨.ofNode w.node c, i.settings.rollup⟩
    return (← r.latestVerifiedBatch.result.toOption, ← r.chainId.result.toOption)
  | _ => none

/-- A document about a state shows the verified batch and the chain id that are read. -/
theorem Invocation.Yields.shows {i : Invocation} {w : Surroundings} {fields : List (Text × Value)}
    (h : i.Yields w fields) {verified chain : Int}
    (hread : i.stateRead? w = some (verified, chain)) :
    Value.field? fields "lastVerifiedBatch" = some (.integer verified) ∧
      Value.field? fields "l2ChainId" = some (.integer chain) := by
  unfold stateRead? at hread
  unfold Yields at h
  split at hread
  · next batch hcommand =>
    rw [hcommand] at h
    obtain ⟨c, ⟨head, network, rollup, _, _, hash, moment⟩, hc, hare, rfl⟩ := h
    rw [hc] at hread
    simp only [Except.toOption, hare.verified, hare.chain, bind, Option.bind, pure] at hread
    cases hread
    cases hash with
    | none => exact ⟨rfl, rfl⟩
    | some hash => exact ⟨rfl, rfl⟩
  · cases hread

/-- In an empty directory a range of small batches is recorded and its document printed. With a node
that answers, a state is read and its document printed. -/
theorem printsItsDocument_smallRange : Accepted ["record-sequence", "5", "6"] ∧
    (run (alone [] []) ["record-sequence", "5", "6"]).ending = .success ∧
    PrintsItsDocument (alone [] []) ["record-sequence", "5", "6"] ∧
    Accepted ["state"] ∧ (run answered ["state"]).ending = .success ∧
    PrintsItsDocument answered ["state"] ∧
    ∃ l fields, IsObject l fields (run answered ["state"]).output ∧
      Value.field? fields "lastVerifiedBatch" = some (.integer 7) ∧
      Value.field? fields "l2ChainId" = some (.integer 7) := by
  have hrange : rangeAsked? ["record-sequence", "5", "6"] = some (5, 6) := by decide +kernel
  have haccepted := (unreported_range_iff hrange).1
  have hm : HoldsLedger (alone [] []).files "sequences.db" (fun _ => none) :=
    ⟨.empty, rfl, .inr ⟨rfl, rfl⟩⟩
  have hreach : (alone [] []).files.Reaches (alone [] []).directories "sequences.db"
      "sequences.db" := by decide +kernel
  have hfree : ∃ c, (alone [] []).files.connect (alone [] []).directories "sequences.db" = .ok c ∧
      c.barrier = none := ⟨.ofDatabase .empty, rfl, rfl⟩
  have hrecorded := recordSequence_of_free hm hreach hfree 5 6
  have hends : (5 : Int64).toInt = 5 ∧ (6 : Int64).toInt = 6 := by decide
  rw [hends.1, hends.2] at hrecorded
  obtain ⟨-, -, hrun⟩ := run_of_asksToRecord (asksToRecord_of_rangeAsked hrange [])
  have hsuccess := (hrun 5 6 hrecorded).1
  have hread : (asked? answered.environment ["state"]).bind (fun i =>
      if (i.printed answered).isOk then i.stateRead? answered else none) = some (7, 7) := by
    decide +kernel
  obtain ⟨i, hi, hread⟩ := Option.bind_eq_some_iff.mp hread
  obtain ⟨hprints, hread⟩ := Option.ite_none_right_eq_some.mp hread
  obtain ⟨text, hprinted⟩ := exists_eq_ok_of_isOk hprints
  have hasks := asks_of_asked? hi
  have hending : (run answered ["state"]).ending = .success := by
    rw [run_of_asks hasks, Invocation.outcome_of_ok hprinted]
  have hstate := run_printsItsDocument hasks.isAccepted.2 (w := answered)
  obtain ⟨j, fields, hj, hobject, hyields⟩ := hstate.document hending
  obtain rfl := hj.eq hasks
  exact ⟨haccepted, hsuccess, run_printsItsDocument haccepted, hasks.isAccepted.2, hending, hstate,
    i.layout, fields, hobject, hyields.shows hread⟩

end CommandLine

end BatchFrontier
