import BatchFrontier.CommandLine.Run
import BatchFrontier.Proofs.BafflingBlocks

/-!
# How reading a state escapes

A node is used after it is asked whether it is there. That never escapes, and neither does the
reading of the addresses of the contracts. The state of a rollup is then read in a fixed order: the
last block, the network, the last verified batch, the chain id, the number of the block and the hash
of a batch. The reading escapes where the node replies to one of these with what nobody expects, and
replied well to all before.
-/

namespace BatchFrontier

open Chain

/-! ## Connections -/

/-- A record has under a name what its fields have under it. -/
theorem Value.named_record_eq_ok_iff (fields : List (Text × Value)) (name : Text) {v : Value} :
    (Value.record fields).named name = .ok v ↔ Value.field? fields name = some v := by
  cases h : field? fields name <;> simp [named, h]

theorem Value.toInteger_fails (v : Value) : FailsOrdinarily v.toInteger := by
  have hdecimal (v : Value) (cs : List Char) : FailsOrdinarily (toInteger.decimal v cs) := by
    unfold toInteger.decimal
    split
    · exact .ok _
    · exact .error rfl
    · exact .error rfl
  unfold toInteger
  split
  · exact .ok _
  · exact .ok _
  · exact .ok _
  · exact .error rfl
  · exact .error rfl
  · exact hdecimal _ _
  · exact hdecimal _ _
  · exact .error rfl

theorem Chain.Node.number_fails {n : Node} (hn : n.RaisesOrdinarily) (method : String) :
    FailsOrdinarily (n.number method).result := by
  rw [number, Traced.bind_result, quantityOf, Traced.bind_result]
  refine FailsOrdinarily.bind ?_ Value.toInteger_fails
  exact (result_fails hn method).bind quantity_fails

namespace Connection

variable {n : Node} (hn : n.RaisesReports) {clock : Clock}

include hn

/-- Surveying a node may fail, but not with a request to stop. -/
theorem survey_fails (took : String) : FailsOrdinarily (survey n took).result := by
  have hdecimal (m : Int) : FailsOrdinarily (Value.decimal m) := by
    by_cases hm : m.natAbs < 10 ^ Text.maxIntegerDigits
    · rw [Value.decimal, if_pos hm]
      exact .ok _
    · rw [Value.decimal, if_neg hm]
      exact .error rfl
  have hname (m : Int) : FailsOrdinarily (Network.nameOfNumber m) :=
    (hdecimal m).bind fun _ => .ok _
  have hline (chain tip : Int) : FailsOrdinarily (namedLine chain tip took) :=
    (hname chain).bind fun _ => (hdecimal chain).bind fun _ => (hdecimal tip).bind fun _ => .ok _
  rw [survey, Traced.bind_result]
  refine (Node.number_fails hn.ordinarily _).bind fun chain => ?_
  rw [Traced.bind_result]
  exact (Node.number_fails hn.ordinarily _).bind fun tip => hline chain tip

/-- A node that is there is announced, whether it can be surveyed or not. -/
theorem announce_result (took : String) : (announce n took).result = .ok () := by
  rw [announce, Traced.resume_result]
  cases hsurvey : (survey n took).result with
  | ok line => rfl
  | error f =>
    have hstop := Fault.isStop_of_isOrdinary (survey_fails hn took f hsurvey)
    simp only [hstop, Bool.false_eq_true, if_false]
    rfl

/-- Whether a node is there is always told, or the failure is expected. -/
theorem isReady_expected : FailsOnly Fault.isExpected n.isReady.result := by
  have hask : (n.ask "web3_clientVersion").result = .ok (n.reply "web3_clientVersion") := rfl
  rw [Node.isReady, Traced.bind_result, hask]
  cases hreply : n.reply "web3_clientVersion" with
  | response r => exact .ok _
  | raised f =>
    change FailsOnly _ (if Node.isTransportFault f then pure false else Traced.fail f :
      Traced Bool).result
    split
    · exact .ok _
    · exact .error (Fault.isExpected_of_isReport (Node.isReport_of_reply hn hreply))

/-- A node can be connected to exactly if it is there, and connecting never escapes. -/
theorem connect_consists (hclock : ∃ took, clock.between 0 1 = .ok took) (url timeout : Value) :
    ConsistsOf (connect n clock url timeout).result [⟨n.isReady.result = .ok true, False⟩] := by
  obtain ⟨took, htook⟩ := hclock
  have hconnect : (connect n clock url timeout).result = n.isReady.result >>= fun isReady =>
      if isReady then .ok () else .error (.showing .unreachable url) := by
    rw [connect, Traced.bind_result, Traced.emit_result]
    change (n.isReady >>= _).result = _
    rw [Traced.bind_result]
    refine congrArg _ (funext fun isReady => ?_)
    cases isReady with
    | false => rfl
    | true =>
      simp only [if_true]
      rw [Traced.bind_result, Traced.lift_result, htook]
      exact announce_result hn took
  rw [hconnect]
  refine .single (iff_of_false ?_ id) ?_
  · rw [escapes_bind_iff]
    rintro (h | ⟨isReady, -, h⟩)
    · exact (isReady_expected hn).not_escapes h
    · cases isReady with
      | true => exact not_escapes_ok () h
      | false =>
        exact not_escapes_showing rfl h
  · cases n.isReady.result with
    | error f => simp [Bind.bind, Except.bind]
    | ok isReady => cases isReady <;> simp [Bind.bind, Except.bind]

end Connection

/-! ## Contracts -/

theorem Address.ofValue_expected (v : Value) : FailsOnly Fault.isExpected (Address.ofValue v) := by
  unfold Address.ofValue
  split
  · exact .ok _
  · exact .showing rfl rfl

theorem Contracts.ofValues_expected (manager legacy : Value) :
    FailsOnly Fault.isExpected (Contracts.ofValues manager legacy) :=
  (Address.ofValue_expected manager).bind fun _ _ =>
    (Address.ofValue_expected legacy).bind fun _ _ => .ok _

/-! ## Readings of a state -/

namespace Chain

/-- A function with a single number is read as a number. -/
theorem Function.exists_integer_of_answer? {f : Function} {bits : Nat} {bs : List UInt8} {v : Value}
    (hf : f.outputs = [.uint bits]) (h : f.answer? bs = some v) : ∃ id : Int, v = .integer id := by
  unfold answer? at h
  rw [hf] at h
  cases hvs : Abi.decodeAll [.uint bits] bs with
  | none => simp [hvs] at h
  | some vs =>
    have hlength : vs.length = 1 := Abi.length_of_decodeAll hvs
    obtain ⟨chunk, w, hw, hdecode⟩ := Abi.exists_decode_of_decodeAll hvs (i := 0) rfl
    obtain ⟨id, rfl, -⟩ := Abi.bounds_of_decode hdecode
    obtain ⟨u, rfl⟩ := List.length_eq_one_iff.mp hlength
    obtain rfl : u = .integer id := by simpa using hw
    exact ⟨id, by simpa [hvs] using h.symm⟩

/-- The manager's record of a rollup has a number as its last verified batch. -/
theorem exists_batch_of_answer? {bs : List UInt8} {v : Value}
    (h : rollupData.answer? bs = some v) :
    ∃ batch : Int, rollupField v (.text "lastVerifiedBatch") = .ok (.integer batch) := by
  obtain ⟨vs, -, rfl, -, -, hvs, -⟩ := answer?_rollupData h
  obtain ⟨chunk, w, hw, hdecode⟩ := Abi.exists_decode_of_decodeAll hvs (i := 6) rfl
  obtain ⟨batch, rfl, -⟩ := Abi.bounds_of_decode hdecode
  exact ⟨batch, (rollupField_of_names (i := 6) rfl hw).1⟩

end Chain

namespace Reader

variable {n : Node} (hn : n.RaisesReports) (c : Contracts) (rollup : Value)

theorem isExpected_of_isMissingBlock {f : Fault} (h : isMissingBlock f = true) :
    f.isExpected = true := by
  cases f with
  | reported label r =>
    have hkind : r.kind = .missingBlock := by simpa [isMissingBlock] using h
    simp [Fault.isExpected, Report.isExpected, hkind]
  | refused r => rfl
  | _ => cases h

theorem latestBlock_escapes_iff :
    Escapes (latestBlock ⟨.ofNode n c, rollup⟩).result ↔ Escapes n.latestBlock.result := by
  have hread : (Sources.ofNode n c).latestBlock.result = n.latestBlock.result := rfl
  rw [latestBlock, Traced.resume_result, hread]
  cases n.latestBlock.result with
  | ok v => exact iff_of_false (not_escapes_ok _) (not_escapes_ok _)
  | error f =>
    by_cases hmissing : isMissingBlock f = true
    · simp [hmissing, isExpected_of_isMissingBlock hmissing]
    · simp [hmissing]

/-- The last block of the node is what a reader finds. -/
theorem latestBlock_of_ok {block : Value} (h : n.latestBlock.result = .ok block) :
    (latestBlock ⟨.ofNode n c, rollup⟩).result = .ok (some block) := by
  have hread : (Sources.ofNode n c).latestBlock.result = .ok block := h
  rw [latestBlock, Traced.resume_result, hread]
  rfl

/-- A block that a reader finds is the last block of the node. -/
theorem latestBlock_of_some {block : Value}
    (h : (latestBlock ⟨.ofNode n c, rollup⟩).result = .ok (some block)) :
    n.latestBlock.result = .ok block := by
  have hsource : (Sources.ofNode n c).latestBlock.result = n.latestBlock.result := rfl
  rw [latestBlock, Traced.resume_result, hsource] at h
  cases hread : n.latestBlock.result with
  | ok v =>
    rw [hread] at h
    rw [Option.some.inj (Except.ok.inj h)]
  | error f =>
    rw [hread] at h
    by_cases hmissing : isMissingBlock f = true
    · simp [hmissing] at h
    · simp [hmissing] at h

include hn

/-- The reading of the last verified batch escapes if the manager cannot be read and the call of the
legacy contract escapes. -/
theorem latestVerifiedBatch_escapes_iff :
    Escapes (latestVerifiedBatch ⟨.ofNode n c, rollup⟩).result ↔
      (∃ f, (n.call c.manager Chain.rollupData [rollup]).result = .error f) ∧
        Escapes (n.call c.legacy Chain.lastVerifiedBatch []).result := by
  cases hcall : (n.call c.manager Chain.rollupData [rollup]).result with
  | ok data =>
    obtain ⟨bs, -, hanswer⟩ := Chain.Node.call_eq_ok_iff.mp hcall
    obtain ⟨batch, hbatch⟩ := Chain.exists_batch_of_answer? hanswer
    have hfield := (managerField_of_ok (r := ⟨.ofNode n c, rollup⟩) hcall
      "lastVerifiedBatch").trans hbatch
    rw [(latestVerifiedBatch_of_manager hfield rfl).1]
    simp
  | error f =>
    have hstop := Fault.isStop_of_isOrdinary (Chain.Node.call_fails hn.ordinarily _ _ _ f hcall)
    have hfield := managerField_of_error (r := ⟨.ofNode n c, rollup⟩) hcall "lastVerifiedBatch"
    have hlegacy : ¬ ∃ v, (n.call c.legacy Chain.lastVerifiedBatch []).result = .ok v ∧
        Escapes v.toInteger := by
      rintro ⟨v, hv, hescapes⟩
      obtain ⟨bs, -, hanswer⟩ := Chain.Node.call_eq_ok_iff.mp hv
      obtain ⟨batch, rfl⟩ := Chain.Function.exists_integer_of_answer? rfl hanswer
      exact not_escapes_ok _ hescapes
    rw [(latestVerifiedBatch_of_unread _ hfield hstop).1]
    change Escapes ((n.call c.legacy Chain.lastVerifiedBatch []).result >>= Value.toInteger) ↔ _
    rw [escapes_bind_iff]
    simp [hlegacy]

/-- The reading of the chain id escapes if the legacy contract gives none and the call of the
manager escapes. -/
theorem chainId_escapes_iff : Escapes (chainId ⟨.ofNode n c, rollup⟩).result ↔
    (∀ id, LegacyGives n c id → id = 0) ∧
      Escapes (n.call c.manager Chain.rollupData [rollup]).result := by
  have hne {f g : Fault} (h : f.isExpected = false) (hg : g.isExpected = true) : f ≠ g := by
    rintro rfl
    exact Bool.false_ne_true (h.symm.trans hg)
  cases hrollup : rollup.isWritable with
  | true =>
    have hprefers := prefersLegacy_ofNode (c := c) hn.ordinarily rollup hrollup
    constructor
    · rintro ⟨f, hf, hescapes⟩
      obtain ⟨hnone, hcall⟩ := (hprefers.failed f (hne hescapes rfl)).mp hf
      exact ⟨hnone, f, hcall, hescapes⟩
    · rintro ⟨hnone, f, hcall, hescapes⟩
      exact ⟨f, (hprefers.failed f (hne hescapes rfl)).mpr ⟨hnone, hcall⟩, hescapes⟩
  | false =>
    -- The manager is not asked for a rollup whose id cannot be written.
    have hcall : ¬ Escapes (n.call c.manager Chain.rollupData [rollup]).result := by
      cases hdata : Chain.rollupData.callData? [rollup] with
      | some data => exact absurd (hrollup.symm.trans (isWritable_of_callData? hdata)) nofun
      | none =>
        rw [Chain.Node.call_of_mismatch hdata n c.manager]
        exact not_escapes_showing rfl
    have hstumbles := stumblesOnZero_ofNode (c := c) hn.ordinarily rollup hrollup
    refine iff_of_false ?_ fun h => hcall h.2
    rintro ⟨f, hf, hescapes⟩
    obtain ⟨-, hfailed⟩ := (hstumbles.failed f (hne hescapes rfl)).mp hf
    exact hcall ⟨f, hfailed, hescapes⟩

omit hn in
/-- The reading of the hash of a batch escapes if the call of the manager does. -/
theorem accInputHash_escapes_iff (batch : Value) :
    Escapes (accInputHash ⟨.ofNode n c, rollup⟩ batch).result ↔
      Escapes (n.call c.manager Chain.sequencedBatch [rollup, batch]).result := by
  have hhash : ¬ ∃ data, (n.call c.manager Chain.sequencedBatch [rollup, batch]).result = .ok data ∧
      Escapes (hashOf data) := by
    rintro ⟨data, hdata, hescapes⟩
    obtain ⟨bs, -, hanswer⟩ := Chain.Node.call_eq_ok_iff.mp hdata
    obtain ⟨rest, rfl⟩ := Chain.answer?_sequencedBatch.1 data hanswer
    exact not_escapes_ok _ hescapes
  rw [accInputHash_result]
  change Escapes ((n.call c.manager Chain.sequencedBatch [rollup, batch]).result >>= hashOf) ↔ _
  rw [escapes_bind_iff]
  simp only [hhash, or_false]

end Reader

namespace CommandLine

/-- That the surroundings of a run are in order: all failures on the way to the node are reports
that are expected, no one asks to stop while a key is drawn, and the clock and the calendar tell. -/
structure Surroundings.Ordinary (w : Surroundings) : Prop where
  node : w.node.RaisesReports
  key : ∀ f, w.key = .error f → f.isStop = false
  connecting : ∃ took, w.clock.between 0 1 = .ok took
  reading : ∃ took, w.clock.between 2 3 = .ok took
  moment : ∃ text, Calendar.momentText w.now = .ok text

variable {w : Surroundings} (hw : w.Ordinary)

/-- What is examined before the contracts behind a node are read: whether the node is there, and
whether both contracts have addresses. -/
def openings (n : Node) (s : Settings) : List Examination :=
  [⟨n.isReady.result = .ok true, False⟩,
    ⟨∃ c, Contracts.ofValues s.manager s.legacy = .ok c, False⟩]

/-- What is examined of the state of a rollup, in the order in which it is read. -/
def readings (n : Node) (rollup : Value) (batch : Option Value) (c : Contracts) :
    List Examination :=
  let r : Reader := ⟨.ofNode n c, rollup⟩
  [⟨∃ block, r.latestBlock.result = .ok block, n.BafflesBlock⟩,
    ⟨∃ id, n.chainId.result = .ok id, n.BafflesChainId⟩,
    ⟨∃ name, n.chainId.result.bind Network.nameOfNumber = .ok name, False⟩,
    ⟨∃ verified, r.latestVerifiedBatch.result = .ok verified,
      (∃ f, (n.call c.manager Chain.rollupData [rollup]).result = .error f) ∧
        n.BafflesCall c.legacy Chain.lastVerifiedBatch []⟩,
    ⟨∃ id, r.chainId.result = .ok id, (∀ id, Reader.LegacyGives n c id → id = 0) ∧
      n.BafflesCall c.manager Chain.rollupData [rollup]⟩,
    ⟨∃ number, r.latestBlock.result.bind blockNumber = .ok number, n.BafflesTip⟩,
    ⟨∃ fields, (hashField r batch).result = .ok fields,
      ∃ b, batch = some b ∧ n.BafflesCall c.manager Chain.sequencedBatch [rollup, b]⟩]

/-- What is examined to show the state of a rollup. -/
def stateExaminations (n : Node) (s : Settings) (batch : Option Value) : List Examination :=
  openings n s ++
    match Contracts.ofValues s.manager s.legacy with
    | .ok c => readings n s.rollup batch c
    | .error _ => []

theorem blockNumber_escapes_iff {n : Node} {c : Contracts} {rollup : Value} {block : Option Value}
    (h : (Reader.latestBlock ⟨.ofNode n c, rollup⟩).result = .ok block) :
    Escapes (blockNumber block) ↔ n.BafflesTip := by
  cases block with
  | none =>
    refine iff_of_false (not_escapes_ok _) ?_
    rintro ⟨fields, v, hblock, -⟩
    rw [Reader.latestBlock_of_ok c rollup hblock] at h
    cases h
  | some header =>
    have hheader := Reader.latestBlock_of_some c rollup h
    obtain ⟨fields, rfl⟩ := Chain.Node.exists_record_of_latestBlock hheader
    have hnumber : blockNumber (some (.record fields)) =
        (Value.named (.record fields) "number" >>= fun v =>
          v.toInteger >>= fun m => .ok (.integer m)) := rfl
    rw [hnumber, escapes_bind_iff, Value.named_escapes_iff, Chain.Node.BafflesTip]
    simp only [escapes_bind_iff, Value.toInteger_escapes_iff, not_escapes_ok, and_false,
      exists_false, or_false, Chain.Form.isRecord, Bool.true_eq_false, false_or]
    constructor
    · rintro ⟨v, hv, hkind⟩
      exact ⟨fields, v, hheader, (Value.named_record_eq_ok_iff fields _).mp hv, hkind⟩
    · rintro ⟨fields', v, hblock, hv, hkind⟩
      obtain rfl := Value.record.inj (Except.ok.inj (hheader.symm.trans hblock))
      exact ⟨v, (Value.named_record_eq_ok_iff fields _).mpr hv, hkind⟩

theorem hashField_escapes_iff {n : Node} (hn : n.RaisesReports)
    (htold : ∃ id, n.chainId.result = .ok id) (c : Contracts) (rollup : Value)
    (batch : Option Value) : Escapes (hashField ⟨.ofNode n c, rollup⟩ batch).result ↔
      ∃ b, batch = some b ∧ n.BafflesCall c.manager Chain.sequencedBatch [rollup, b] := by
  cases batch with
  | none => exact iff_of_false (not_escapes_ok _) (by simp)
  | some b =>
    have hfield : Escapes (hashField ⟨.ofNode n c, rollup⟩ (some b)).result ↔
        Escapes (Reader.accInputHash ⟨.ofNode n c, rollup⟩ b).result := by
      rw [hashField, Traced.bind_result]
      exact escapes_bind_iff.trans (or_iff_left fun ⟨_, _, h⟩ => not_escapes_ok _ h)
    rw [hfield, Reader.accInputHash_escapes_iff, Chain.Node.call_escapes_iff hn htold]
    simp

include hw

theorem openChain_consists (s : Settings) :
    ConsistsOf (openChain w s).result (openings w.node s) := by
  have hcontracts := Contracts.ofValues_expected s.manager s.legacy
  rw [openChain, Traced.bind_result]
  exact (Connection.connect_consists hw.node hw.connecting s.rpcUrl _).append fun _ _ =>
    .single (iff_of_false hcontracts.not_escapes id) Iff.rfl

omit hw in
theorem ofValues_of_openChain {s : Settings} {c : Contracts}
    (h : (openChain w s).result = .ok c) : Contracts.ofValues s.manager s.legacy = .ok c := by
  rw [openChain, Traced.bind_result] at h
  cases hconnect : (Connection.connect w.node w.clock s.rpcUrl
      (.integer Connection.defaultTimeout)).result with
  | error f =>
    rw [hconnect] at h
    cases h
  | ok u =>
    rw [hconnect] at h
    exact h

theorem stateDocument_escapes_iff (s : Settings) (batch : Option Value) :
    Escapes (stateDocument w s batch).result ↔
      FirstEscapes (stateExaminations w.node s batch) := by
  obtain ⟨took, htook⟩ := hw.reading
  obtain ⟨moment, hmoment⟩ := hw.moment
  rw [stateDocument, Traced.bind_result]
  refine (openChain_consists hw s).bind fun c hc => ?_
  have hbind {α β : Type} (a : α) (next : α → Except Fault β) :
      Except.bind (.ok a) next = next a := rfl
  rw [ofValues_of_openChain hc]
  simp only [Traced.bind_result, Traced.lift_result, hmoment, htook, hbind]
  refine escapes_bind_iff_firstEscapes ?_ Iff.rfl fun block hblock => ?_
  · exact (Reader.latestBlock_escapes_iff c s.rollup).trans
      (Chain.Node.latestBlock_escapes_iff hw.node)
  refine escapes_bind_iff_firstEscapes (Chain.Node.chainId_escapes_iff hw.node) Iff.rfl
    fun id hid => ?_
  have htold : ∃ id, w.node.chainId.result = .ok id := ⟨id, hid⟩
  rw [hid, hblock, hbind, hbind]
  refine escapes_bind_iff_firstEscapes
    (iff_of_false (Network.nameOfNumber_expected id).not_escapes not_false) Iff.rfl fun name _ => ?_
  refine escapes_bind_iff_firstEscapes ?_ Iff.rfl fun verified _ => ?_
  · rw [Reader.latestVerifiedBatch_escapes_iff hw.node,
      Chain.Node.call_escapes_iff hw.node htold]
  refine escapes_bind_iff_firstEscapes ?_ Iff.rfl fun chain _ => ?_
  · rw [Reader.chainId_escapes_iff hw.node, Chain.Node.call_escapes_iff hw.node htold]
  refine escapes_bind_iff_firstEscapes (blockNumber_escapes_iff hblock) Iff.rfl fun number _ => ?_
  exact escapes_bind_iff_firstEscapes (hashField_escapes_iff hw.node htold c s.rollup batch)
    Iff.rfl fun hash _ => iff_of_false (not_escapes_ok _) not_firstEscapes_nil

end CommandLine

end BatchFrontier
