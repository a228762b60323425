import BatchFrontier.Proofs.ChainIdSource
import BatchFrontier.Proofs.HexSpelling
import BatchFrontier.Proofs.WordFilling
import Mathlib.Data.List.Forall2

/-!
# The manager's records

The manager's record of a rollup is read by the places of its fields, and a field has the same value
in the sequence of words as under its name. A reply that is no record, because it is too short or
because the filling of any of its words is not zero, counts as no reply at all, also for a reader
of another field. A record of a sequenced batch gives its hash under the same condition.
-/

namespace BatchFrontier

namespace Abi

/-- That a value is one of a type, in the form in which it is read. -/
inductive Kind.Holds : Kind → Value → Prop
  | uint {bits : Nat} {n : Int} (hlow : 0 ≤ n) (hhigh : n < 2 ^ bits) :
    Holds (.uint bits) (.integer n)
  | address (a : Address) : Holds .address (.text a.text)
  | bytes32 (w : Word) : Holds .bytes32 (.bytes w.bytes)
  | words {count : Nat} {ws : List Word} (h : ws.length = count) :
    Holds (.words count) (.list (ws.map fun w => .bytes w.bytes))

/-- A value of a type can be written. -/
theorem exists_encode_of_holds {k : Kind} {v : Value} (h : k.Holds v) :
    ∃ bs, encode k v = some bs := by
  cases h with
  | uint hlow hhigh => exact ⟨_, encode_integer ⟨hlow, hhigh⟩⟩
  | address a => exact ⟨_, encode_address a⟩
  | bytes32 w => exact ⟨_, encode_word w⟩
  | words hcount => exact ⟨_, encode_words hcount⟩

/-- A value of a type is read back as it is. -/
theorem canonical_of_holds {k : Kind} {v : Value} (h : k.Holds v) : canonical k v = v := by
  cases h with
  | address a => exact canonical_address a
  | uint hlow hhigh => rfl
  | bytes32 w => rfl
  | words hcount => rfl

/-- Values of some types can be written, and are read back as they are. -/
theorem exists_encodeAll_of_holds {kinds : List Kind} {vs : List Value}
    (hkinds : ∀ k ∈ kinds, k.IsBounded) (h : List.Forall₂ Kind.Holds kinds vs) :
    ∃ bs, encodeAll kinds vs = some bs ∧
      ∀ rest, decodeAll kinds (bs ++ rest) = some vs := by
  have hwritten : ∃ bs, encodeAll kinds vs = some bs := by
    clear hkinds
    induction h with
    | nil => exact ⟨[], rfl⟩
    | cons hv _ ih =>
      obtain ⟨here, hhere⟩ := exists_encode_of_holds hv
      obtain ⟨tail, htail⟩ := ih
      exact ⟨here ++ tail, by simp [encodeAll, hhere, htail]⟩
  have hcanonical : List.zipWith canonical kinds vs = vs := by
    clear hkinds hwritten
    induction h with
    | nil => rfl
    | cons hv _ ih => rw [List.zipWith_cons_cons, canonical_of_holds hv, ih]
  obtain ⟨bs, hbs⟩ := hwritten
  refine ⟨bs, hbs, fun rest => ?_⟩
  rw [decodeAll_encodeAll hkinds hbs rest, hcanonical]

end Abi

/-! ## Fields by place and by name -/

namespace Value

/-- In a record that is paired with names a field stands at the place of its name. -/
theorem field?_zip (names : List Text) (vs : List Value) (name : Text) :
    field? (names.zip vs) name = (names.findIdx? (· == name)).bind fun i => vs[i]? := by
  induction names generalizing vs with
  | nil => rfl
  | cons first names ih =>
    cases vs with
    | nil => cases h : (first :: names).findIdx? (· == name) <;> simp [field?]
    | cons v vs =>
      by_cases hfirst : (first == name) = true
      · simp [field?, List.findIdx?_cons, hfirst]
      · have hrest : field? ((first :: names).zip (v :: vs)) name =
            field? (names.zip vs) name := by simp [field?, hfirst]
        rw [hrest, ih vs, List.findIdx?_cons, if_neg hfirst, Option.bind_map]
        rfl

end Value

namespace Chain

/-- The names of the fields of a rollup, in the order in which they are returned. -/
def rollupNames : List Text := rollupFields.map fun f => f.1

/-- A field is looked for among the names. -/
theorem fieldIndex?_eq (name : Text) : fieldIndex? name = rollupNames.findIdx? (· == name) := by
  rw [fieldIndex?, rollupNames, List.findIdx?_map]
  rfl

/-- No name stands twice. -/
theorem nodup_rollupNames : rollupNames.Nodup := by decide +kernel

/-- Each name has its own place. -/
theorem fieldIndex?_rollupNames {i : Nat} {name : Text} (h : rollupNames[i]? = some name) :
    fieldIndex? name = some i := by
  obtain ⟨hi, rfl⟩ := List.getElem?_eq_some_iff.mp h
  rw [fieldIndex?_eq, List.findIdx?_eq_some_iff_getElem]
  refine ⟨hi, beq_self_eq_true _, fun j hj heq => ?_⟩
  exact List.pairwise_iff_getElem.mp nodup_rollupNames j i (by omega) hi hj (eq_of_beq heq)

/-- A field has the same value in a sequence of values as in the record that pairs the names with
them. -/
theorem rollupField_of_names {vs : List Value} {i : Nat} {name : Text} {v : Value}
    (hname : rollupNames[i]? = some name) (hv : vs[i]? = some v) :
    rollupField (.tuple vs) (.text name) = .ok v ∧
      rollupField (.record (rollupNames.zip vs)) (.text name) = .ok v := by
  have hi := fieldIndex?_rollupNames hname
  have hrecord : Value.field? (rollupNames.zip vs) name = some v := by
    rw [Value.field?_zip, ← fieldIndex?_eq, hi, Option.bind_some, hv]
  exact ⟨(rollupField_of_part? hi).1 v hv, (rollupField_of_part? hi).1 v hrecord⟩

/-! ## Replies -/

/-- A contract returns at most one sequence of bytes. -/
theorem Node.Returns.unique {n : Node} {address : Address} {f : Function} {arguments : List Value}
    {as bs : List UInt8} (ha : n.Returns address f arguments as)
    (hb : n.Returns address f arguments bs) : as = bs := by
  obtain ⟨data, hdata, hsend⟩ := ha
  obtain ⟨data', hdata', hsend'⟩ := hb
  obtain rfl := Option.some.inj (hdata.symm.trans hdata')
  exact Except.ok.inj (hsend.symm.trans hsend')

/-- More than one value is read as a tuple. -/
theorem Function.answer?_of_decodeAll {f : Function} {bs : List UInt8} {vs : List Value}
    (h : Abi.decodeAll f.outputs bs = some vs) (hmany : f.outputs.length ≠ 1) :
    f.answer? bs = some (.tuple vs) := by
  have hlength := Abi.length_of_decodeAll h
  rw [answer?, h]
  cases vs with
  | nil => rfl
  | cons v rest =>
    cases rest with
    | nil => exact absurd hlength.symm hmany
    | cons => rfl

/-- What cannot be read as the outputs of a function is no answer. -/
theorem Function.answer?_eq_none {f : Function} {bs : List UInt8}
    (h : Abi.decodeAll f.outputs bs = none) : f.answer? bs = none := by
  rw [answer?, h]

/-- A reply whose words are not filled makes a call fail. -/
theorem Node.call_fails_of_not_filled {n : Node} {address : Address} {f : Function}
    {arguments : List Value} {bs : List UInt8} (hkinds : ∀ k ∈ f.outputs, k.TakesWord)
    (hreturns : n.Returns address f arguments bs) (hfilled : ¬ Abi.Filled f.outputs bs) :
    ∃ g, (n.call address f arguments).result = .error g := by
  have hunread : Abi.decodeAll f.outputs bs = none := by
    cases hdecode : Abi.decodeAll f.outputs bs with
    | none => rfl
    | some vs =>
      have hsome : (Abi.decodeAll f.outputs bs).isSome = true := by rw [hdecode]; rfl
      exact absurd ((Abi.decodeAll_isSome_iff hkinds bs).mp hsome) hfilled
  cases hcall : (n.call address f arguments).result with
  | error g => exact ⟨g, rfl⟩
  | ok v =>
    obtain ⟨bs', hreturns', hanswer⟩ := Node.call_eq_ok_iff.mp hcall
    obtain rfl := hreturns.unique hreturns'
    rw [Function.answer?_eq_none hunread] at hanswer
    cases hanswer

theorem takesWord_rollupData : ∀ k ∈ rollupData.outputs, k.TakesWord := by
  simp [rollupData, rollupFields, Abi.Kind.TakesWord]

theorem isBounded_rollupData : ∀ k ∈ rollupData.outputs, k.IsBounded := by
  simp [rollupData, rollupFields, Abi.Kind.IsBounded]

/-- The record of a sequenced batch is read exactly from three words, of which two hold numbers of
64 bits; the first is the hash. -/
theorem answer?_sequencedBatch {bs : List UInt8} :
    (∀ v, sequencedBatch.answer? bs = some v → ∃ rest, v = .tuple (.bytes (bs.take 32) :: rest)) ∧
      ((sequencedBatch.answer? bs).isSome = true ↔ 96 ≤ bs.length ∧
        BigEndian.toNat ((bs.drop 32).take 32) < 2 ^ 64 ∧
        BigEndian.toNat ((bs.drop 64).take 32) < 2 ^ 64) := by
  have hsome : (Abi.decodeAll sequencedBatch.outputs bs).isSome = true ↔ 96 ≤ bs.length ∧
      BigEndian.toNat ((bs.drop 32).take 32) < 2 ^ 64 ∧
      BigEndian.toNat ((bs.drop 64).take 32) < 2 ^ 64 := by
    have hword : (Abi.decode .bytes32 (bs.take 32)).isSome = true ↔ (bs.take 32).length = 32 := by
      by_cases hsize : (bs.take 32).length = 32 <;> simp [Abi.decode, Abi.Kind.size, hsize]
    simp only [sequencedBatch, Abi.decodeAll_cons_isSome_iff, Abi.Kind.size,
      Abi.decode_uint_isSome_iff, hword, List.drop_drop, List.length_take, List.length_drop]
    simp only [Abi.decodeAll, Option.isSome_some, and_true]
    constructor
    · rintro ⟨-, ⟨-, hfirst⟩, hlength, hsecond⟩
      exact ⟨by omega, hfirst, hsecond⟩
    · rintro ⟨hlength, hfirst, hsecond⟩
      exact ⟨by omega, ⟨by omega, hfirst⟩, by omega, hsecond⟩
  cases hdecode : Abi.decodeAll sequencedBatch.outputs bs with
  | none =>
    rw [hdecode] at hsome
    rw [Function.answer?_eq_none hdecode]
    exact ⟨fun v hv => (by cases hv), hsome⟩
  | some vs =>
    have hanswer := Function.answer?_of_decodeAll hdecode (by decide)
    rw [hdecode] at hsome
    rw [hanswer]
    refine ⟨fun v hv => ?_, hsome⟩
    rw [sequencedBatch, Abi.decodeAll] at hdecode
    obtain ⟨hash, hhash, hrest⟩ := Option.bind_eq_some_iff.mp hdecode
    obtain ⟨rest, -, hvs⟩ := Option.bind_eq_some_iff.mp hrest
    obtain rfl := Option.some.inj hvs
    have hbytes : hash = .bytes (bs.take 32) := by
      unfold Abi.decode at hhash
      split at hhash
      · cases hhash
      · exact (Option.some.inj hhash).symm
    exact ⟨rest, by rw [← Option.some.inj hv, hbytes]⟩

/-- A rollup and a batch are asked for exactly if they have at most 32 and 64 bits and no sign. -/
theorem callData?_sequencedBatch (rollup batch : Int) :
    (sequencedBatch.callData? [.integer rollup, .integer batch]).isSome = true ↔
      (0 ≤ rollup ∧ rollup < 2 ^ 32) ∧ 0 ≤ batch ∧ batch < 2 ^ 64 := by
  by_cases hrollup : 0 ≤ rollup ∧ rollup < 2 ^ 32
  · by_cases hbatch : 0 ≤ batch ∧ batch < 2 ^ 64
    · have hdata : (sequencedBatch.callData? [.integer rollup, .integer batch]).isSome = true := by
        simp [Function.callData?, sequencedBatch, Abi.encodeAll, Abi.encode_integer hrollup,
          Abi.encode_integer hbatch]
      exact ⟨fun _ => ⟨hrollup, hbatch⟩, fun _ => hdata⟩
    · have hencode : Abi.encode (.uint 64) (.integer batch) = none := by
        rw [Abi.encode, if_neg hbatch]
      simp only [Function.callData?, sequencedBatch, Abi.encodeAll, Abi.encode_integer hrollup,
        hencode]
      simpa using fun _ _ => hbatch
  · have hencode : Abi.encode (.uint 32) (.integer rollup) = none := by
      rw [Abi.encode, if_neg hrollup]
    simp only [Function.callData?, sequencedBatch, Abi.encodeAll, hencode]
    simpa using fun h h' => absurd ⟨h, h'⟩ hrollup

end Chain

/-! ## A contract with one reply -/

namespace Chain

/-- A node whose contract at an address replies to every call with the same bytes. -/
def Node.replying (address : Address) (bs : List UInt8) : Node where
  replies := [("eth_chainId", .response (.ofResult (.text "0x1")))]
  calls := [⟨address.text, "", .response (.ofResult (.text (Hex.writeMarked bs)))⟩]

theorem Node.raisesOrdinarily_replying (address : Address) (bs : List UInt8) :
    (replying address bs).RaisesOrdinarily := by
  simp [RaisesOrdinarily, replying]

/-- What a call brings is read as bytes. -/
theorem Node.send_of_ok {n : Node} {address : Address} {data : List UInt8} {v : Value}
    (h : (n.callResult address data).result = .ok v) :
    (n.send address data).result = v.toBytes := by
  rw [send, Traced.resume_result, h]
  rfl

/-- The bytes are returned to every call that can be made. -/
theorem Node.returns_replying (address : Address) (bs : List UInt8) {f : Function}
    {arguments : List Value} {data : List UInt8} (h : f.callData? arguments = some data) :
    (replying address bs).Returns address f arguments bs := by
  have hreply : (replying address bs).callReply address data =
      .response (.ofResult (.text (Hex.writeMarked bs))) := by
    have hcodes : (Text.ofString address.text).chars = address.text.toList :=
      Text.chars_ofChars _
    have hempty : Text.beginsWith (Hex.writeMarked data) "" = true := rfl
    simp [callReply, replying, hcodes, hempty]
  have hquantity : ((replying address bs).quantityOf chainIdMethod).result = .ok (.integer 1) :=
    rfl
  have hbytes : (Value.text (Hex.writeMarked bs)).toBytes = .ok bs :=
    Value.bytesOfText_writeMarked bs
  have hcall : ((replying address bs).callResult address data).result =
      .ok (.text (Hex.writeMarked bs)) := by
    rw [callResult, Traced.bind_result, hquantity]
    simp only [Except.bind, Traced.bind_result, Traced.emit_result, Traced.lift_result, hreply]
    exact Response.outcome_ofResult _ true (Refusal.callFault address)
  exact ⟨data, h, (send_of_ok hcall).trans hbytes⟩

end Chain

namespace Reader

variable {n : Chain.Node} {c : Contracts}

/-- The reading of the legacy contract is the last verified batch, if the manager cannot be
read. -/
theorem latestVerifiedBatch_of_unread (r : Reader) {f : Fault}
    (h : (r.managerField "lastVerifiedBatch").result = .error f) (hs : f.isStop = false) :
    r.latestVerifiedBatch.result = r.sources.lastVerifiedBatch.result.bind Value.toInteger ∧
      r.latestVerifiedBatch.acts =
        (r.sources.rollupData r.rollup).acts ++ r.sources.lastVerifiedBatch.acts := by
  refine ⟨?_, (latestVerifiedBatch_of_legacy h hs).2.2⟩
  have hfails : Provider.FailsWith Provider.rejectNone
      ⟨"rollupManager", r.managerField "lastVerifiedBatch"⟩ f := .of_read h hs
  have hresolved := (Provider.resolve_pair_of_failsWith (.text "lastVerifiedBatch")
    ⟨"legacyRollup", r.sources.lastVerifiedBatch⟩ hfails).1
  rw [outcome_rejectNone] at hresolved
  rw [latestVerifiedBatch, Traced.bind_result, hresolved]
  rfl

/-- The manager is asked only for rollups whose ids can be written. -/
theorem isWritable_of_callData? {rollup : Value} {data : List UInt8}
    (h : Chain.rollupData.callData? [rollup] = some data) : rollup.isWritable = true := by
  obtain ⟨_, hencode, -⟩ := Option.map_eq_some_iff.mp h
  cases rollup with
  | integer id =>
    have hrange : 0 ≤ id ∧ id < 2 ^ 32 := by
      simp only [Chain.rollupData, Abi.encodeAll, Abi.encode] at hencode
      by_contra hrange
      rw [if_neg hrange] at hencode
      cases hencode
    have hdigits : id.natAbs < 10 ^ 10 := by omega
    exact Value.isWritable_of_natAbs_lt hdigits (by decide)
  | _ => simp [Chain.rollupData, Abi.encodeAll, Abi.encode] at hencode

/-- What the manager's record of a rollup holds is read by a reader of the rollup. -/
theorem reads_record {vs : List Value} {bs : List UInt8} {rollup : Value} {batch id : Int}
    (hn : n.RaisesOrdinarily) (hdecode : Abi.decodeAll Chain.rollupData.outputs bs = some vs)
    (hbatch : vs[6]? = some (.integer batch)) (hid : vs[1]? = some (.integer id))
    (hreturns : n.Returns c.manager Chain.rollupData [rollup] bs) :
    (latestVerifiedBatch ⟨.ofNode n c, rollup⟩).result = .ok batch ∧
      (latestVerifiedBatch ⟨.ofNode n c, rollup⟩).acts =
        (n.call c.manager Chain.rollupData [rollup]).acts ∧
      ((∀ u, LegacyGives n c u → u = 0) → (chainId ⟨.ofNode n c, rollup⟩).result =
        if id = 0 then .error (.emptyChainId rollup) else .ok id) := by
  have hanswer : Chain.rollupData.answer? bs = some (.tuple vs) :=
    Chain.Function.answer?_of_decodeAll hdecode (by decide)
  have hcall : ((Sources.ofNode n c).rollupData rollup).result = .ok (.tuple vs) :=
    Chain.Node.call_eq_ok_iff.mpr ⟨bs, hreturns, hanswer⟩
  have hfield : Chain.rollupField (.tuple vs) (.text "lastVerifiedBatch") =
      .ok (.integer batch) :=
    (Chain.rollupField_of_names (i := 6) rfl hbatch).1
  obtain ⟨hresult, hacts⟩ := latestVerifiedBatch_of_manager (r := ⟨.ofNode n c, rollup⟩)
    ((managerField_of_ok hcall "lastVerifiedBatch").trans hfield) rfl
  refine ⟨hresult, hacts, fun hlegacy => ?_⟩
  have hrollup : rollup.isWritable = true := by
    obtain ⟨_, hdata, -⟩ := hreturns
    exact isWritable_of_callData? hdata
  have hprefers := prefersLegacy_ofNode (c := c) hn rollup hrollup
  have hmanager : ManagerGives n c rollup id := ⟨bs, vs, hreturns, hdecode, hid⟩
  by_cases hzero : id = 0
  · subst hzero
    rw [if_pos rfl]
    exact hprefers.empty.mpr ⟨hlegacy, hmanager⟩
  · rw [if_neg hzero]
    exact (hprefers.value id).mpr ⟨hzero, .inr ⟨hlegacy, hmanager⟩⟩

/-- The hash of a batch is the first word of a reply that is a record of it. -/
theorem accInputHash_eq_ok_iff {rollup batch : Value} {hash : List UInt8} :
    (accInputHash ⟨.ofNode n c, rollup⟩ batch).result = .ok hash ↔
      ∃ bs, n.Returns c.manager Chain.sequencedBatch [rollup, batch] bs ∧
        (Chain.sequencedBatch.answer? bs).isSome = true ∧ hash = bs.take 32 := by
  rw [accInputHash_result]
  constructor
  · intro h
    cases hcall : ((Sources.ofNode n c).sequencedBatch rollup batch).result with
    | error f =>
      rw [hcall] at h
      cases h
    | ok data =>
      obtain ⟨bs, hreturns, hanswer⟩ := Chain.Node.call_eq_ok_iff.mp hcall
      obtain ⟨rest, rfl⟩ := Chain.answer?_sequencedBatch.1 data hanswer
      rw [hcall] at h
      refine ⟨bs, hreturns, by rw [hanswer]; rfl, ?_⟩
      exact (Except.ok.inj h).symm
  · rintro ⟨bs, hreturns, hsome, rfl⟩
    obtain ⟨data, hanswer⟩ := Option.isSome_iff_exists.mp hsome
    have hcall : ((Sources.ofNode n c).sequencedBatch rollup batch).result = .ok data :=
      Chain.Node.call_eq_ok_iff.mpr ⟨bs, hreturns, hanswer⟩
    obtain ⟨rest, rfl⟩ := Chain.answer?_sequencedBatch.1 data hanswer
    rw [hcall]
    rfl

/-- The fields of a record are read by their places and by their names alike. -/
theorem rollupField_of_holds {vs : List Value}
    (hvs : List.Forall₂ Abi.Kind.Holds Chain.rollupData.outputs vs) {i : Nat} {name : Text}
    (hname : Chain.rollupNames[i]? = some name) :
    ∃ v, vs[i]? = some v ∧ Chain.rollupField (.tuple vs) (.text name) = .ok v ∧
      Chain.rollupField (.record (Chain.rollupNames.zip vs)) (.text name) = .ok v := by
  have hlength : vs.length = Chain.rollupNames.length := hvs.length_eq.symm
  have hi : i < vs.length := by
    rw [hlength]
    exact (List.getElem?_eq_some_iff.mp hname).1
  have hv : vs[i]? = some vs[i] := List.getElem?_eq_getElem hi
  exact ⟨vs[i], hv, Chain.rollupField_of_names hname hv⟩

/-- A record that was written is read again, whatever follows it. -/
theorem reads_written (hn : n.RaisesOrdinarily) {vs : List Value}
    (hvs : List.Forall₂ Abi.Kind.Holds Chain.rollupData.outputs vs) :
    ∃ (bs : List UInt8) (batch id : Int),
      Abi.encodeAll Chain.rollupData.outputs vs = some bs ∧
      vs[6]? = some (.integer batch) ∧ vs[1]? = some (.integer id) ∧
      ∀ (rollup : Value) (extra : List UInt8),
        n.Returns c.manager Chain.rollupData [rollup] (bs ++ extra) →
          (n.call c.manager Chain.rollupData [rollup]).result = .ok (.tuple vs) ∧
          (latestVerifiedBatch ⟨.ofNode n c, rollup⟩).result = .ok batch ∧
          (latestVerifiedBatch ⟨.ofNode n c, rollup⟩).acts =
            (n.call c.manager Chain.rollupData [rollup]).acts ∧
          ((∀ u, LegacyGives n c u → u = 0) →
            (chainId ⟨.ofNode n c, rollup⟩).result =
              if id = 0 then .error (.emptyChainId rollup) else .ok id) := by
  obtain ⟨bs, hwritten, hread⟩ := Abi.exists_encodeAll_of_holds Chain.isBounded_rollupData hvs
  obtain ⟨_, v, hbatch, hv⟩ := Abi.exists_decode_of_decodeAll (hread []) (i := 6) rfl
  obtain ⟨batch, rfl, -⟩ := Abi.bounds_of_decode hv
  obtain ⟨_, w, hid, hw⟩ := Abi.exists_decode_of_decodeAll (hread []) (i := 1) rfl
  obtain ⟨id, rfl, -⟩ := Abi.bounds_of_decode hw
  refine ⟨bs, batch, id, hwritten, hbatch, hid, fun rollup extra hreturns => ⟨?_, ?_⟩⟩
  · exact Chain.Node.call_eq_ok_iff.mpr
      ⟨_, hreturns, Chain.Function.answer?_of_decodeAll (hread extra) (by decide)⟩
  · exact reads_record hn (hread extra) hbatch hid hreturns

/-- A batch that can be asked for has as its hash the first word of a reply whose words are
filled. -/
theorem accInputHash_of_range (n : Chain.Node) (c : Contracts) {rollup batch : Int}
    (hrange : (0 ≤ rollup ∧ rollup < 2 ^ 32) ∧ 0 ≤ batch ∧ batch < 2 ^ 64) :
    ∃ data, Chain.sequencedBatch.callData? [.integer rollup, .integer batch] = some data ∧
      ∀ hash, (accInputHash ⟨.ofNode n c, .integer rollup⟩ (.integer batch)).result =
          .ok hash ↔
        ∃ bs, (n.send c.manager data).result = .ok bs ∧ 96 ≤ bs.length ∧
          BigEndian.toNat ((bs.drop 32).take 32) < 2 ^ 64 ∧
          BigEndian.toNat ((bs.drop 64).take 32) < 2 ^ 64 ∧ hash = bs.take 32 := by
  obtain ⟨data, hdata⟩ := Option.isSome_iff_exists.mp
    ((Chain.callData?_sequencedBatch rollup batch).mpr hrange)
  refine ⟨data, hdata, fun hash => ?_⟩
  rw [accInputHash_eq_ok_iff]
  constructor
  · rintro ⟨bs, ⟨data', hdata', hsend⟩, hsome, rfl⟩
    obtain rfl := Option.some.inj (hdata.symm.trans hdata')
    obtain ⟨hsize, hfirst, hsecond⟩ := Chain.answer?_sequencedBatch.2.mp hsome
    exact ⟨bs, hsend, hsize, hfirst, hsecond, rfl⟩
  · rintro ⟨bs, hsend, hsize, hfirst, hsecond, rfl⟩
    exact ⟨bs, ⟨data, hdata, hsend⟩,
      Chain.answer?_sequencedBatch.2.mpr ⟨hsize, hfirst, hsecond⟩, rfl⟩

/-- A batch that cannot be asked for is refused without a call, and the refusal shows it. -/
theorem accInputHash_of_mismatch (n : Chain.Node) (c : Contracts) {rollup batch : Int}
    (hrange : ¬ ((0 ≤ rollup ∧ rollup < 2 ^ 32) ∧ 0 ≤ batch ∧ batch < 2 ^ 64)) :
    accInputHash ⟨.ofNode n c, .integer rollup⟩ (.integer batch) =
      Traced.fail (.showing
        (fun _ => .mismatch (Chain.sequencedBatch.mismatch [.integer rollup, .integer batch]))
        (.list [.integer rollup, .integer batch])) := by
  have hdata : Chain.sequencedBatch.callData? [.integer rollup, .integer batch] = none := by
    rw [← Option.not_isSome_iff_eq_none, Chain.callData?_sequencedBatch]
    exact hrange
  have hcall : (Sources.ofNode n c).sequencedBatch (.integer rollup) (.integer batch) = _ :=
    Chain.Node.call_of_mismatch hdata n c.manager
  rw [accInputHash, hcall]
  exact Traced.fail_bind _ _

/-- Two integers can be shown if both have few enough digits. -/
theorem isWritable_pair_iff {m n : Int} : (Value.list [.integer m, .integer n]).isWritable = true ↔
    m.natAbs < 10 ^ Text.maxIntegerDigits ∧ n.natAbs < 10 ^ Text.maxIntegerDigits := by
  simp only [Value.isWritable_list_iff, List.forall_mem_cons, Value.isWritable_integer_iff,
    List.not_mem_nil, false_imp_iff, implies_true, and_true]

/-- The manager's record of a rollup is read exactly as it was written, whatever follows it: by
place or by name, for the last verified batch, and for a chain id that is not zero. A reply that is
no such record counts as none, and the legacy contract is asked instead. The hash of a batch is the
first word of the record of that batch, or there is none; what cannot be asked for is not asked
for, and is named if it can be written. -/
theorem reads_managerRecords (n : Chain.Node) (c : Contracts) (hn : n.RaisesOrdinarily) :
    (∀ vs : List Value, List.Forall₂ Abi.Kind.Holds Chain.rollupData.outputs vs →
        (∀ (i : Nat) (name : Text), Chain.rollupNames[i]? = some name → ∃ v, vs[i]? = some v ∧
          Chain.rollupField (.tuple vs) (.text name) = .ok v ∧
          Chain.rollupField (.record (Chain.rollupNames.zip vs)) (.text name) = .ok v) ∧
        ∃ (bs : List UInt8) (batch id : Int),
          Abi.encodeAll Chain.rollupData.outputs vs = some bs ∧
          vs[6]? = some (.integer batch) ∧ vs[1]? = some (.integer id) ∧
          ∀ (rollup : Value) (extra : List UInt8),
            n.Returns c.manager Chain.rollupData [rollup] (bs ++ extra) →
              (n.call c.manager Chain.rollupData [rollup]).result = .ok (.tuple vs) ∧
              (latestVerifiedBatch ⟨.ofNode n c, rollup⟩).result = .ok batch ∧
              (latestVerifiedBatch ⟨.ofNode n c, rollup⟩).acts =
                (n.call c.manager Chain.rollupData [rollup]).acts ∧
              ((∀ u, LegacyGives n c u → u = 0) →
                (chainId ⟨.ofNode n c, rollup⟩).result =
                  if id = 0 then .error (.emptyChainId rollup) else .ok id)) ∧
      (∀ (rollup : Value) (bs : List UInt8),
        n.Returns c.manager Chain.rollupData [rollup] bs →
        ¬ Abi.Filled Chain.rollupData.outputs bs →
          (∃ f, (n.call c.manager Chain.rollupData [rollup]).result = .error f) ∧
          (latestVerifiedBatch ⟨.ofNode n c, rollup⟩).result =
            (n.call c.legacy Chain.lastVerifiedBatch []).result.bind Value.toInteger ∧
          (latestVerifiedBatch ⟨.ofNode n c, rollup⟩).acts =
            (n.call c.manager Chain.rollupData [rollup]).acts ++
              (n.call c.legacy Chain.lastVerifiedBatch []).acts) ∧
      ∀ rollup batch : Int,
        ((0 ≤ rollup ∧ rollup < 2 ^ 32) ∧ 0 ≤ batch ∧ batch < 2 ^ 64 →
          ∃ data, Chain.sequencedBatch.callData? [.integer rollup, .integer batch] = some data ∧
            ∀ hash, (accInputHash ⟨.ofNode n c, .integer rollup⟩ (.integer batch)).result =
                .ok hash ↔
              ∃ bs, (n.send c.manager data).result = .ok bs ∧ 96 ≤ bs.length ∧
                BigEndian.toNat ((bs.drop 32).take 32) < 2 ^ 64 ∧
                BigEndian.toNat ((bs.drop 64).take 32) < 2 ^ 64 ∧ hash = bs.take 32) ∧
        (¬ ((0 ≤ rollup ∧ rollup < 2 ^ 32) ∧ 0 ≤ batch ∧ batch < 2 ^ 64) →
          (rollup.natAbs < 10 ^ Text.maxIntegerDigits ∧
              batch.natAbs < 10 ^ Text.maxIntegerDigits →
            accInputHash ⟨.ofNode n c, .integer rollup⟩ (.integer batch) =
              Traced.fail (.mismatch
                (Chain.sequencedBatch.mismatch [.integer rollup, .integer batch]))) ∧
          (¬ (rollup.natAbs < 10 ^ Text.maxIntegerDigits ∧
              batch.natAbs < 10 ^ Text.maxIntegerDigits) →
            accInputHash ⟨.ofNode n c, .integer rollup⟩ (.integer batch) =
              Traced.fail .unwrittenInteger)) := by
  refine ⟨fun vs hvs => ?_, fun rollup bs hreturns hfilled => ?_, fun rollup batch => ?_⟩
  · exact ⟨fun i name hname => rollupField_of_holds hvs hname, reads_written hn hvs⟩
  · obtain ⟨f, hcall⟩ :=
      Chain.Node.call_fails_of_not_filled Chain.takesWord_rollupData hreturns hfilled
    have hstop := Fault.isStop_of_isOrdinary (Chain.Node.call_fails hn _ _ _ f hcall)
    have hfield : (managerField ⟨.ofNode n c, rollup⟩ "lastVerifiedBatch").result = .error f :=
      managerField_of_error hcall "lastVerifiedBatch"
    exact ⟨⟨f, hcall⟩, latestVerifiedBatch_of_unread ⟨.ofNode n c, rollup⟩ hfield hstop⟩
  · refine ⟨accInputHash_of_range n c, fun hrange => ⟨fun hshort => ?_, fun hlong => ?_⟩⟩
    · rw [accInputHash_of_mismatch n c hrange,
        Fault.showing_of_isWritable _ (isWritable_pair_iff.mpr hshort)]
    · have hunwritten := Bool.eq_false_iff.mpr fun h => hlong (isWritable_pair_iff.mp h)
      rw [accInputHash_of_mismatch n c hrange, Fault.showing_of_not_isWritable _ hunwritten]

/-- The address zero. -/
def zeroAddress : Address := ⟨List.replicate 20 0, rfl⟩

/-- A record of a rollup in which only the last verified batch and the chain id are not zero. -/
def sparseRecord (batch id : Nat) : List Value :=
  [.text zeroAddress.text, .integer id, .text zeroAddress.text, .integer 0,
    .bytes (Word.ofNat 0).bytes, .integer 0, .integer batch, .integer 0, .integer 0, .integer 0,
    .integer 0, .integer 0]

/-- The words of such a record. -/
def sparseReply (batch id : Nat) : List UInt8 :=
  [0, id, 0, 0, 0, 0, batch, 0, 0, 0, 0, 0].flatMap fun w => (Word.ofNat w).bytes

section

variable {batch id : Nat} (hbatch : batch < 2 ^ 64) (hid : id < 2 ^ 64)

include hbatch hid

theorem holds_sparseRecord :
    List.Forall₂ Abi.Kind.Holds Chain.rollupData.outputs (sparseRecord batch id) := by
  have hzero {bits : Nat} : (Abi.Kind.uint bits).Holds (.integer 0) :=
    .uint (Int.le_refl 0) (Int.pow_pos (by decide))
  have hnumber {m : Nat} (hm : m < 2 ^ 64) : (Abi.Kind.uint 64).Holds (.integer m) :=
    .uint (by omega) (by omega)
  exact .cons (.address _) (.cons (hnumber hid) (.cons (.address _) (.cons hzero
    (.cons (.bytes32 _) (.cons hzero (.cons (hnumber hbatch) (.cons hzero (.cons hzero
      (.cons hzero (.cons hzero (.cons hzero .nil)))))))))))

theorem encodeAll_sparseRecord :
    Abi.encodeAll Chain.rollupData.outputs (sparseRecord batch id) =
      some (sparseReply batch id) := by
  have hzero (bits : Nat) : Abi.encode (.uint bits) (.integer 0) = some (Word.ofNat 0).bytes :=
    Abi.encode_integer ⟨Int.le_refl 0, Int.pow_pos (by decide)⟩
  have hnumber {m : Nat} (hm : m < 2 ^ 64) :
      Abi.encode (.uint 64) (.integer m) = some (Word.ofNat m).bytes :=
    Abi.encode_integer ⟨by omega, by omega⟩
  have haddress : List.replicate 12 0 ++ zeroAddress.bytes = (Word.ofNat 0).bytes := by
    decide +kernel
  simp only [Chain.rollupData, Chain.rollupFields, List.map_cons, List.map_nil, sparseRecord,
    Abi.encodeAll, hzero, hnumber hbatch, hnumber hid, Abi.encode_address, haddress,
    Abi.encode_word, Option.bind_eq_bind, Option.bind_some, Option.pure_def]
  rfl

end

/-- The first word of such a record is read as a chain id of zero. -/
theorem legacyGives_sparseReply {batch id : Nat} {extra : List UInt8} {u : Int}
    (h : LegacyGives (.replying zeroAddress (sparseReply batch id ++ extra))
      ⟨zeroAddress, zeroAddress⟩ u) : u = 0 := by
  obtain ⟨bs, hreturns, hdecode⟩ := h
  have hdata : Chain.chainId.callData? [] = some (Abi.selector Chain.chainId.signature ++ []) := rfl
  obtain rfl := hreturns.unique (Chain.Node.returns_replying zeroAddress _ hdata)
  have hbounded : ∀ k ∈ Chain.chainId.outputs, k.IsBounded := by
    simp [Chain.chainId, Abi.Kind.IsBounded]
  have hwritten : Abi.encodeAll Chain.chainId.outputs [.integer 0] =
      some ((Word.ofNat 0).bytes ++ []) := by
    simp [Chain.chainId, Abi.encodeAll, Abi.encode_integer]
  have hread := Abi.decodeAll_encodeAll hbounded hwritten
    ([id, 0, 0, 0, 0, batch, 0, 0, 0, 0, 0].flatMap (fun w => (Word.ofNat w).bytes) ++ extra)
  rw [List.append_nil, ← List.append_assoc] at hread
  simpa [Chain.chainId, Abi.canonical] using hdecode.symm.trans hread

/-- Of a record with a batch 42 and a chain id of 7 both are read, though a byte follows it. If its
last byte is missing, the batch is that of the legacy contract. -/
theorem reads_sparseRecord :
    let c : Contracts := ⟨zeroAddress, zeroAddress⟩
    let n : Chain.Node := .replying zeroAddress (sparseReply 42 7 ++ [1])
    let short : Chain.Node := .replying zeroAddress ((sparseReply 42 7).take 383)
    n.RaisesOrdinarily ∧ (latestVerifiedBatch ⟨.ofNode n c, .integer 1⟩).result = .ok 42 ∧
      (chainId ⟨.ofNode n c, .integer 1⟩).result = .ok 7 ∧
      (accInputHash ⟨.ofNode n c, .integer 1⟩ (.integer 2)).result =
        .ok (List.replicate 32 0) ∧
      accInputHash ⟨.ofNode n c, .integer 1⟩ (.integer (-1)) = Traced.fail (.mismatch
        (Chain.sequencedBatch.mismatch [.integer 1, .integer (-1)])) ∧
      short.RaisesOrdinarily ∧
      (latestVerifiedBatch ⟨.ofNode short c, .integer 1⟩).result = .ok 0 := by
  intro c n short
  have hn : n.RaisesOrdinarily := Chain.Node.raisesOrdinarily_replying _ _
  have hshort : short.RaisesOrdinarily := Chain.Node.raisesOrdinarily_replying _ _
  obtain ⟨hrecords, -, hhashes⟩ := reads_managerRecords n c hn
  obtain ⟨-, hmalformed, -⟩ := reads_managerRecords short c hshort
  have hrollup : ∃ data, Chain.rollupData.callData? [.integer 1] = some data := by
    simp [Chain.Function.callData?, Chain.rollupData, Abi.encodeAll, Abi.encode_integer]
  obtain ⟨data, hdata⟩ := hrollup
  have hreturns : n.Returns c.manager Chain.rollupData [.integer 1] (sparseReply 42 7 ++ [1]) :=
    Chain.Node.returns_replying zeroAddress _ hdata
  obtain ⟨bs, batch, id, hbs, hbatch, hid, hreads⟩ :=
    (hrecords _ (@holds_sparseRecord 42 7 (by decide) (by decide))).2
  obtain rfl := Option.some.inj (hbs.symm.trans (encodeAll_sparseRecord (by decide) (by decide)))
  obtain rfl : (42 : Int) = batch := by simpa [sparseRecord] using hbatch
  obtain rfl : (7 : Int) = id := by simpa [sparseRecord] using hid
  obtain ⟨-, hlast, -, hchain⟩ := hreads (.integer 1) [1] hreturns
  refine ⟨hn, hlast, hchain fun u hu => legacyGives_sparseReply hu, ?_, ?_, hshort, ?_⟩
  · obtain ⟨question, hquestion, hhash⟩ := (hhashes 1 2).1 (by decide)
    obtain ⟨question', hquestion', hsend⟩ :=
      Chain.Node.returns_replying zeroAddress (sparseReply 42 7 ++ [1]) hquestion
    obtain rfl := Option.some.inj (hquestion.symm.trans hquestion')
    refine (hhash _).mpr ⟨_, hsend, ?_⟩
    decide +kernel
  · have hdigits : 10 ^ 1 ≤ 10 ^ Text.maxIntegerDigits :=
      Nat.pow_le_pow_right (by decide) (by decide)
    exact ((hhashes 1 (-1)).2 (by decide)).1 ⟨by omega, by omega⟩
  · have hcut : short.Returns c.manager Chain.rollupData [.integer 1]
        ((sparseReply 42 7).take 383) := Chain.Node.returns_replying zeroAddress _ hdata
    have hfilled : ¬ Abi.Filled Chain.rollupData.outputs ((sparseReply 42 7).take 383) :=
      fun h => absurd h.size (by decide +kernel)
    have hlegacy : (short.call c.legacy Chain.lastVerifiedBatch []).result = .ok (.integer 0) :=
      Chain.Node.call_eq_ok_iff.mpr
        ⟨_, Chain.Node.returns_replying zeroAddress _ rfl, by rfl⟩
    rw [(hmalformed (.integer 1) _ hcut hfilled).2.1, hlegacy]
    rfl

/-- A chain id of zero is refused, though the manager's record holds it. -/
theorem chainId_of_sparseRecord :
    let c : Contracts := ⟨zeroAddress, zeroAddress⟩
    let n : Chain.Node := .replying zeroAddress (sparseReply 42 0 ++ [])
    List.Forall₂ Abi.Kind.Holds Chain.rollupData.outputs (sparseRecord 42 0) ∧
      Abi.encodeAll Chain.rollupData.outputs (sparseRecord 42 0) = some (sparseReply 42 0) ∧
      (sparseRecord 42 0)[1]? = some (.integer 0) ∧
      n.Returns c.manager Chain.rollupData [.integer 1] (sparseReply 42 0 ++ []) ∧
      (∀ u, LegacyGives n c u → u = 0) ∧
      (chainId ⟨.ofNode n c, .integer 1⟩).result = .error (.emptyChainId (.integer 1)) ∧
      (chainId ⟨.ofNode n c, .integer 1⟩).result ≠ .ok 0 := by
  intro c n
  have hholds := @holds_sparseRecord 42 0 (by decide) (by decide)
  have hwritten := @encodeAll_sparseRecord 42 0 (by decide) (by decide)
  have hbounded := Chain.isBounded_rollupData
  have hrollup : ∃ data, Chain.rollupData.callData? [.integer 1] = some data := by
    simp [Chain.Function.callData?, Chain.rollupData, Abi.encodeAll, Abi.encode_integer]
  obtain ⟨data, hdata⟩ := hrollup
  have hreturns : n.Returns c.manager Chain.rollupData [.integer 1] (sparseReply 42 0 ++ []) :=
    Chain.Node.returns_replying zeroAddress _ hdata
  have hread : Abi.decodeAll Chain.rollupData.outputs (sparseReply 42 0 ++ []) =
      some (sparseRecord 42 0) := by
    obtain ⟨bs, hbs, hread⟩ := Abi.exists_encodeAll_of_holds hbounded hholds
    obtain rfl := Option.some.inj (hbs.symm.trans hwritten)
    exact hread []
  have hlegacy : ∀ u, LegacyGives n c u → u = 0 := fun u hu => legacyGives_sparseReply hu
  have hbatch : (sparseRecord 42 0)[6]? = some (.integer 42) := rfl
  have hid : (sparseRecord 42 0)[1]? = some (.integer 0) := rfl
  have hchain := (reads_record (Chain.Node.raisesOrdinarily_replying _ _) hread hbatch hid
    hreturns).2.2 hlegacy
  refine ⟨hholds, hwritten, rfl, hreturns, hlegacy, hchain, ?_⟩
  rw [hchain]
  intro h
  cases h

end Reader

end BatchFrontier
