import BatchFrontier.Proofs.MessageReading
import BatchFrontier.Proofs.RevertGrammar

/-!
# What a payload says

The digits of a payload are those after its mark, in lower case. They say the name of a declared
error if its selector comes first, whatever follows, and they say a text if they are the selector of
a plain message and then pairs of digits for bytes that encode the text strictly. All other digits
say nothing, and then the text that comes with the failure decides.
-/

namespace BatchFrontier

/-! ## Letters in either case -/

namespace Text

theorem toLower_eq_zero_iff {c : Char} : c.toLower = '0' ↔ c = '0' := by
  have hzero : '0'.toNat = 48 := rfl
  rw [← Char.toNat_inj, ← Char.toNat_inj, toNat_toLower, hzero]
  split <;> omega

theorem toLower_eq_x_iff {c : Char} : c.toLower = 'x' ↔ c = 'x' ∨ c = 'X' := by
  have hlower : 'x'.toNat = 120 := rfl
  have hupper : 'X'.toNat = 88 := rfl
  rw [← Char.toNat_inj, ← Char.toNat_inj, ← Char.toNat_inj, toNat_toLower, hlower, hupper]
  split <;> omega

end Text

/-! ## Digits -/

namespace Revert

open BatchFrontier.Text

/-- The digits of a payload: what stands behind its mark, with small letters for capitals. -/
def digitsOf (payload : Text) : List Char := (Hex.dropMark payload.chars).map Char.toLower

/-- A mark is a mark in either case. -/
theorem payloadDigits_eq (payload : Text) : payloadDigits payload = digitsOf payload := by
  unfold payloadDigits digitsOf
  generalize payload.chars = cs
  match cs with
  | [] => rfl
  | [c] => simp [Hex.dropMark]
  | c :: d :: rest =>
    by_cases hmark : c = '0' ∧ (d = 'x' ∨ d = 'X')
    · obtain ⟨rfl, rfl | rfl⟩ := hmark <;> rfl
    · have hlower : ¬ (c.toLower = '0' ∧ d.toLower = 'x') := by
        rwa [toLower_eq_zero_iff, toLower_eq_x_iff]
      have hkept : Hex.dropMark (c :: d :: rest) = c :: d :: rest := by
        unfold Hex.dropMark
        split <;> simp_all
      rw [hkept, List.map_cons, List.map_cons]
      split
      · simp_all
      · rfl

/-- The declared errors with their selectors in digits. The digests behind the selectors are
evaluated here and nowhere else: what depends on the digits is told from this list. -/
theorem declared_eq : declared =
    [("bbcbbc05", "OnlyTrustedAggregator"), ("74a086a3", "RollupMustExist"),
     ("1e56e9e2", "InitNumBatchAboveLastVerifiedBatch"),
     ("2bd2e3e7", "InitNumBatchDoesNotMatchPendingState"),
     ("b9b18f57", "FinalNumBatchBelowLastVerifiedBatch"),
     ("32a2a77f", "FinalNumBatchDoesNotMatchPendingState"),
     ("bfa7079f", "FinalPendingStateNumInvalid"), ("6818c29e", "OldAccInputHashDoesNotExist"),
     ("66385b51", "NewAccInputHashDoesNotExist"), ("176b913c", "NewStateRootNotInsidePrime"),
     ("09bde339", "InvalidProof"), ("0ce9e4a2", "PendingStateNotConsolidable"),
     ("8a0704d3", "TrustedAggregatorTimeoutNotExpired"),
     ("b59f753a", "ExceedMaxVerifyBatches")] := by
  decide +kernel

/-- A signature and the name in it make an entry of the table. -/
theorem mem_declared {signature : String} (h : signature ∈ signatures) :
    (Abi.selectorDigits signature, nameOf signature) ∈ declared :=
  List.mem_map.mpr ⟨signature, h, rfl⟩

/-- That some digits say the reason of a revert. -/
inductive Says (digits : List Char) : Text → Prop where
  /-- The selector of a declared error comes first; its name is the reason. -/
  | declared {e : String × String} {rest : List Char} (he : e ∈ declared)
    (h : digits = e.1.toList ++ rest) : Says digits e.2
  /-- The selector of a plain message comes first, then a text in words. -/
  | message {rest : List Char} {bs : List UInt8} {s : List Char}
    (h : digits = messageSelector.toList ++ rest) (hpairs : Hex.Spells rest bs)
    (hwords : Abi.Encodes bs s) : Says digits (.ofChars s)

/-- That some digits say no reason. -/
inductive SaysNothing (digits : List Char) : Prop where
  /-- There are too few for a selector. -/
  | short (h : digits.length < 8)
  /-- The selector is that of no declared error and of no plain message. -/
  | unknown {selector rest : List Char} (h : digits = selector ++ rest)
    (hlength : selector.length = 8) (hdeclared : ∀ e ∈ declared, e.1.toList ≠ selector)
    (hmessage : selector ≠ messageSelector.toList)
  /-- What follows the selector of a plain message is no text of pairs. -/
  | unpaired {rest : List Char} (h : digits = messageSelector.toList ++ rest)
    (hpairs : ∀ bs, ¬ Hex.Spells rest bs)
  /-- The bytes that follow the selector of a plain message are malformed. -/
  | malformed {rest : List Char} {bs : List UInt8} (h : digits = messageSelector.toList ++ rest)
    (hpairs : Hex.Spells rest bs) (hwords : Abi.IsMalformed bs)

/-- Declared errors are told apart by their selectors. -/
theorem find?_declared {e : String × String} (he : e ∈ declared) :
    declared.find? (fun d => d.1 == e.1) = some e := by
  rw [declared_eq] at he ⊢
  revert e
  decide

theorem find?_messageSelector : declared.find? (fun d => d.1 == messageSelector) = none := by
  rw [declared_eq]
  decide

theorem length_messageSelector : messageSelector.toList.length = 8 := rfl

theorem length_selector {e : String × String} (he : e ∈ declared) : e.1.toList.length = 8 := by
  rw [declared_eq] at he
  revert e
  decide

/-- The first eight digits are a selector if the digits begin with it. -/
theorem take_selector {selector : String} (hlength : selector.toList.length = 8)
    (rest : List Char) : String.ofList ((selector.toList ++ rest).take 8) = selector ∧
      (selector.toList ++ rest).drop 8 = rest := by
  rw [List.take_left' hlength, List.drop_left' hlength, String.ofList_toList]
  exact ⟨rfl, rfl⟩

/-- A payload is read as the reason that its digits say. -/
theorem reasonOfPayload?_eq_some_iff {payload reason : Text} :
    reasonOfPayload? payload = some reason ↔ Says (digitsOf payload) reason := by
  unfold reasonOfPayload?
  simp only [payloadDigits_eq]
  generalize digitsOf payload = digits
  constructor
  · intro h
    split at h
    · next e he =>
      have hselector := List.find?_some he
      simp only [beq_iff_eq] at hselector
      obtain rfl := Option.some.inj h
      have hdigits : digits = e.1.toList ++ digits.drop 8 := by
        rw [hselector, String.toList_ofList, List.take_append_drop]
      exact .declared (List.mem_of_find?_eq_some he) hdigits
    · split at h
      · next hselector =>
        simp only [Option.map_eq_some_iff, Option.bind_eq_some_iff] at h
        obtain ⟨s, ⟨bs, hpairs, hwords⟩, rfl⟩ := h
        have hdigits : digits = messageSelector.toList ++ digits.drop 8 := by
          rw [← hselector, String.toList_ofList, List.take_append_drop]
        have hspells : Hex.Spells (digits.drop 8) bs := by
          rw [← Hex.readSpaced_eq_ok_iff]
          cases hread : Hex.readSpaced (digits.drop 8) with
          | error i =>
            rw [hread] at hpairs
            cases hpairs
          | ok bs' =>
            rw [hread] at hpairs
            exact congrArg _ (Option.some.inj hpairs)
        exact .message hdigits hspells (Abi.readMessage?_eq_some_iff.mp hwords)
      · cases h
  · intro h
    cases h with
    | @declared e rest he h =>
      obtain ⟨htake, -⟩ := take_selector (length_selector he) rest
      rw [h, htake, find?_declared he]
    | @message rest bs s h hpairs hwords =>
      obtain ⟨htake, hdrop⟩ := take_selector length_messageSelector rest
      rw [h, htake, hdrop, find?_messageSelector, Hex.readSpaced_eq_ok_iff.mpr hpairs]
      simp only [if_true, Except.toOption, Option.bind_some,
        Abi.readMessage?_eq_some_iff.mpr hwords, Option.map_some]

/-- A payload is not read if its digits say no reason. -/
theorem reasonOfPayload?_eq_none_iff {payload : Text} :
    reasonOfPayload? payload = none ↔ ∀ reason, ¬ Says (digitsOf payload) reason := by
  rw [Option.eq_none_iff_forall_ne_some]
  apply forall_congr'
  intro reason
  exact not_congr reasonOfPayload?_eq_some_iff

theorem selector_ne_messageSelector {e : String × String} (he : e ∈ declared) :
    e.1.toList ≠ messageSelector.toList := by
  rw [declared_eq] at he
  revert e
  decide

/-- Digits begin with one selector only. -/
theorem selector_unique {digits selector other rest tail : List Char}
    (h : digits = selector ++ rest) (h' : digits = other ++ tail) (hlength : selector.length = 8)
    (hlength' : other.length = 8) : selector = other ∧ rest = tail :=
  List.append_inj (h.symm.trans h') (hlength.trans hlength'.symm)

/-- Digits that say nothing say no reason. -/
theorem not_says_of_saysNothing {digits : List Char} (h : SaysNothing digits) (reason : Text) :
    ¬ Says digits reason := by
  intro hreason
  cases hreason with
  | @declared e rest he hdigits =>
    have hselector := length_selector he
    cases h with
    | short h =>
      rw [hdigits, List.length_append] at h
      omega
    | unknown h hlength hdeclared _ =>
      exact hdeclared e he (selector_unique hdigits h hselector hlength).1
    | unpaired h _ =>
      exact selector_ne_messageSelector he (selector_unique hdigits h hselector rfl).1
    | malformed h _ _ =>
      exact selector_ne_messageSelector he (selector_unique hdigits h hselector rfl).1
  | @message rest bs s hdigits hpairs hwords =>
    cases h with
    | short h =>
      rw [hdigits, List.length_append, length_messageSelector] at h
      omega
    | unknown h hlength _ hmessage =>
      exact hmessage (selector_unique hdigits h length_messageSelector hlength).1.symm
    | unpaired h hnone =>
      obtain ⟨-, rfl⟩ := selector_unique hdigits h rfl rfl
      exact hnone bs hpairs
    | malformed h hpairs' hmalformed =>
      obtain ⟨-, rfl⟩ := selector_unique hdigits h rfl rfl
      rw [← Hex.readSpaced_eq_ok_iff] at hpairs hpairs'
      obtain rfl := Except.ok.inj (hpairs.symm.trans hpairs')
      rw [← Abi.readMessage?_eq_none_iff, Abi.readMessage?_eq_some_iff.mpr hwords] at hmalformed
      cases hmalformed

/-- Digits say a reason or say nothing. -/
theorem says_or_saysNothing (digits : List Char) :
    (∃ reason, Says digits reason) ∨ SaysNothing digits := by
  by_cases hshort : digits.length < 8
  · exact .inr (.short hshort)
  have hsplit : digits = digits.take 8 ++ digits.drop 8 := (List.take_append_drop 8 digits).symm
  have hlength : (digits.take 8).length = 8 := List.length_take_of_le (by omega)
  by_cases hdeclared : ∃ e ∈ declared, e.1.toList = digits.take 8
  · obtain ⟨e, he, hselector⟩ := hdeclared
    exact .inl ⟨_, .declared he (hselector ▸ hsplit)⟩
  by_cases hmessage : digits.take 8 = messageSelector.toList
  · rw [hmessage] at hsplit
    cases hread : Hex.readSpaced (digits.drop 8) with
    | error i =>
      refine .inr (.unpaired hsplit fun bs hpairs => ?_)
      rw [← Hex.readSpaced_eq_ok_iff, hread] at hpairs
      cases hpairs
    | ok bs =>
      have hpairs := Hex.readSpaced_eq_ok_iff.mp hread
      cases hwords : Abi.readMessage? bs with
      | none => exact .inr (.malformed hsplit hpairs (Abi.readMessage?_eq_none_iff.mp hwords))
      | some s =>
        exact .inl ⟨_, .message hsplit hpairs (Abi.readMessage?_eq_some_iff.mp hwords)⟩
  · exact .inr (.unknown hsplit hlength (fun e he h => hdeclared ⟨e, he, h⟩) hmessage)

end Revert

/-! ## Faults -/

namespace Report

/-- A report on which nothing was set later has the attributes of its kind. -/
theorem attribute?_of_built {r : Report} (h : r.attributes = []) (name : String) :
    r.attribute? name = r.ownAttribute? name := by
  have hlater : r.later? name = none := by
    rw [later?, h]
    rfl
  rw [attribute?, hlater]
  rfl

end Report

namespace Fault

/-- The report that a fault passes on, if it passes one on. -/
def report? : Fault → Option Report
  | .reported _ r | .refused r => some r
  | _ => none

/-- An attribute of a fault; only reports have attributes. -/
def attribute? (f : Fault) (name : String) : Option Value :=
  f.report?.bind fun r => r.attribute? name

/-- Whether a fault is a call that reverted, of whichever kind. -/
def isRevertedCall (f : Fault) : Bool :=
  f.report?.any fun r => [.logic, .custom, .panic, .offchain].contains r.kind

/-- The text that is searched for a reason: the message of a fault if it is a text, and else the
text of the fault. -/
def spoken (f : Fault) : Text :=
  match f.attribute? "message" with
  | some (.text t) => t
  | _ => f.message

end Fault

namespace Revert

open BatchFrontier.Text

theorem searched_ofFault (f : Fault) : (Evidence.ofFault f).searched = f.spoken := by
  cases f <;> rfl

/-- A fault is recognised by its payload, or else by its text. -/
theorem recognise?_eq (f : Fault) : recognise? f =
    (((Evidence.ofFault f).payloadText?.bind reasonOfPayload?).orElse fun _ =>
      reasonOfText? f.spoken).map .reverted := by
  rw [recognise?, Evidence.reason?, searched_ofFault]

/-- A call that reverted is told by its report. -/
theorem exists_report_of_isRevertedCall {f : Fault} (h : f.isRevertedCall = true) :
    ∃ r, Evidence.ofFault f = .ofReport r ∧ f.report? = some r ∧
      (r.kind = .logic ∨ r.kind = .custom ∨ r.kind = .panic ∨ r.kind = .offchain) := by
  cases f with
  | reported _ r => exact ⟨r, rfl, rfl, by simpa [Fault.isRevertedCall, Fault.report?] using h⟩
  | refused r => exact ⟨r, rfl, rfl, by simpa [Fault.isRevertedCall, Fault.report?] using h⟩
  | _ => cases h

/-- The data of a call that reverted is the payload if it is a text. -/
theorem payloadText?_of_data {f : Fault} {payload : Text} (hcall : f.isRevertedCall = true)
    (hdata : f.attribute? "data" = some (.text payload)) :
    (Evidence.ofFault f).payloadText? = some payload := by
  obtain ⟨r, hevidence, hreport, hkind⟩ := exists_report_of_isRevertedCall hcall
  have hdata' : r.attribute? "data" = some (.text payload) := by
    simpa [Fault.attribute?, hreport] using hdata
  have hpayload : (Evidence.ofReport r).payload = some (.text payload) := by
    rcases hkind with hkind | hkind | hkind | hkind <;>
      simp [Evidence.ofReport, hkind, hdata']
  rw [hevidence, Evidence.payloadText?, hpayload]

/-- A call that reverted with a text as its data is told by its payload first, and then by its
text. -/
theorem recognise?_of_data {f : Fault} {payload : Text} (hcall : f.isRevertedCall = true)
    (hdata : f.attribute? "data" = some (.text payload)) :
    recognise? f = ((reasonOfPayload? payload).orElse fun _ =>
      reasonOfText? f.spoken).map .reverted := by
  rw [recognise?_eq, payloadText?_of_data hcall hdata, Option.bind_some]

/-- What the digits say is the reason. -/
theorem recognise?_of_says {f : Fault} {payload reason : Text} (hcall : f.isRevertedCall = true)
    (hdata : f.attribute? "data" = some (.text payload)) (h : Says (digitsOf payload) reason) :
    recognise? f = some (.reverted reason) := by
  rw [recognise?_of_data hcall hdata, reasonOfPayload?_eq_some_iff.mpr h]
  rfl

/-- How a call that reverted is recognised by the payload in its data. -/
structure DecodesExactly (f : Fault) (payload : Text) : Prop where
  /-- A written text is the reason, whatever its characters are and whatever follows it. A text of
  more bytes than a word can count has no written form. -/
  roundTrip : ∀ s extra, (Utf8.encode s).length < 2 ^ 256 →
    digitsOf payload = messageSelector.toList ++ Hex.write (Abi.writeMessage s ++ extra) →
    recognise? f = some (.reverted (.ofChars s))
  /-- The name of an error that the rollup manager declares is the reason, whatever follows the
  selector of its signature. -/
  declared : ∀ name ∈ ["OnlyTrustedAggregator", "RollupMustExist",
      "InitNumBatchAboveLastVerifiedBatch", "InitNumBatchDoesNotMatchPendingState",
      "FinalNumBatchBelowLastVerifiedBatch", "FinalNumBatchDoesNotMatchPendingState",
      "FinalPendingStateNumInvalid", "OldAccInputHashDoesNotExist",
      "NewAccInputHashDoesNotExist", "NewStateRootNotInsidePrime", "InvalidProof",
      "PendingStateNotConsolidable", "TrustedAggregatorTimeoutNotExpired",
      "ExceedMaxVerifyBatches"],
    ∀ rest, digitsOf payload = (Abi.selectorDigits (name ++ "()")).toList ++ rest →
      recognise? f = some (.reverted name)
  /-- What the digits say is the reason. -/
  ofSays : ∀ reason, Says (digitsOf payload) reason → recognise? f = some (.reverted reason)
  /-- Where they say nothing, the text decides. -/
  ofSaysNothing : SaysNothing (digitsOf payload) →
    recognise? f = (reasonOfText? f.spoken).map .reverted
  /-- There is no third. -/
  exhaustive : (∃ reason, Says (digitsOf payload) reason) ∨ SaysNothing (digitsOf payload)

/-- The signature of a declared error is its name with no parameters. -/
theorem nameOf_declared {name : String}
    (h : name ∈ ["OnlyTrustedAggregator", "RollupMustExist",
      "InitNumBatchAboveLastVerifiedBatch", "InitNumBatchDoesNotMatchPendingState",
      "FinalNumBatchBelowLastVerifiedBatch", "FinalNumBatchDoesNotMatchPendingState",
      "FinalPendingStateNumInvalid", "OldAccInputHashDoesNotExist",
      "NewAccInputHashDoesNotExist", "NewStateRootNotInsidePrime", "InvalidProof",
      "PendingStateNotConsolidable", "TrustedAggregatorTimeoutNotExpired",
      "ExceedMaxVerifyBatches"]) :
    name ++ "()" ∈ signatures ∧ nameOf (name ++ "()") = name := by
  revert name
  decide

/-- A call that reverted with a text as its data is recognised by exactly what the payload says. -/
theorem decodesExactly_of_data {f : Fault} {payload : Text} (hcall : f.isRevertedCall = true)
    (hdata : f.attribute? "data" = some (.text payload)) : DecodesExactly f payload := by
  refine ⟨fun s extra hlength hdigits => ?_, fun name hname rest hdigits => ?_,
    fun reason => recognise?_of_says hcall hdata, fun h => ?_, says_or_saysNothing _⟩
  · exact recognise?_of_says hcall hdata
      (.message hdigits (Hex.spells_write _) (Abi.encodes_writeMessage hlength extra))
  · obtain ⟨hsignature, hnameOf⟩ := nameOf_declared hname
    have hsays := recognise?_of_says hcall hdata (.declared (mem_declared hsignature) hdigits)
    rwa [hnameOf] at hsays
  · have hnone := reasonOfPayload?_eq_none_iff.mpr (not_says_of_saysNothing h)
    rw [recognise?_of_data hcall hdata, hnone]
    rfl

/-- A payload in capital letters, of a text with a quotation mark, a character of three bytes and a
newline, and three bytes more; the message that comes with it gives another reason. -/
def shoutedFault : Fault :=
  .reported "ContractLogicError" ⟨.logic, [.text "execution reverted: other",
    .text (.ofChars ('0' :: 'X' :: (messageSelector.toList ++
      Hex.write (Abi.writeMessage "it's \u20ac\n".toList ++ [1, 2, 3])).map Char.toUpper))], []⟩

/-- The selector of `InvalidProof()` in capital letters and a digit too few for bytes; the message
that comes with it gives another reason. -/
def unprovedFault : Fault :=
  .reported "ContractLogicError"
    ⟨.logic, [.text "execution reverted: other", .text "0X09BDE339abc"], []⟩

theorem decodesExactly_shoutedFault :
    (shoutedFault.isRevertedCall = true ∧ shoutedFault.spoken = "execution reverted: other" ∧
      recognise? shoutedFault = some (.reverted "it's \u20ac\n")) ∧
    (unprovedFault.isRevertedCall = true ∧ unprovedFault.spoken = "execution reverted: other" ∧
      recognise? unprovedFault = some (.reverted "InvalidProof")) :=
  ⟨⟨rfl, rfl, (decodesExactly_of_data (f := shoutedFault) rfl rfl).roundTrip
      "it's \u20ac\n".toList [1, 2, 3] (by decide) (by decide +kernel)⟩,
    ⟨rfl, rfl, (decodesExactly_of_data (f := unprovedFault) rfl rfl).declared
      "InvalidProof" (by decide) "abc".toList (by decide +kernel)⟩⟩

/-! ## Errors that the contract declares -/

/-- That a text is a payload of a declared error, in letters of either case: the mark, the selector
and more digits. -/
def IsPayloadOf (e : String × String) (payload : Text) : Prop :=
  ∃ rest, (∀ c ∈ rest, isHexDigit c = true) ∧
    payload.chars.map Char.toLower = '0' :: 'x' :: (e.1.toList ++ rest)

/-- That a report carries a payload: as its data, or as its message if its data are no text. -/
def Carries (r : Report) (payload : Text) : Prop :=
  r.second = .text payload ∨ (∀ t, r.second ≠ .text t) ∧ r.first = .text payload

/-- The digits of a payload of a declared error say its name. -/
theorem IsPayloadOf.says_name {e : String × String} {payload : Text} (h : IsPayloadOf e payload)
    (he : e ∈ declared) : Says (digitsOf payload) e.2 := by
  obtain ⟨rest, -, hpayload⟩ := h
  have hdigits : digitsOf payload = e.1.toList ++ rest := by
    rw [← payloadDigits_eq, payloadDigits, hpayload]
    rfl
  exact .declared he hdigits

theorem isHexDigit_selector {e : String × String} (he : e ∈ declared) :
    ∀ c ∈ e.1.toList, isHexDigit c = true := by
  have hall : ∀ e ∈ declared, e.1.toList.all isHexDigit = true := by
    rw [declared_eq]
    decide
  exact List.all_eq_true.mp (hall e he)

/-- A payload holds no space, so it does not speak of a revert. -/
theorem IsPayloadOf.not_speaks {e : String × String} {payload : Text} (h : IsPayloadOf e payload)
    (he : e ∈ declared) : ¬ Speaks payload := by
  rintro ⟨before, rest, hcodes, -⟩
  obtain ⟨tail, htail, hpayload⟩ := h
  have hspace : ' ' ∈ payload.chars.map Char.toLower := by
    refine List.mem_map.mpr ⟨' ', ?_, rfl⟩
    rw [Text.chars, hcodes]
    simp [marker, Text.ofString, Text.ofChars, Code.toChar]
  rw [hpayload] at hspace
  simp only [List.mem_cons, List.mem_append] at hspace
  rcases hspace with hspace | hspace | hspace | hspace
  · cases hspace
  · cases hspace
  · exact absurd (isHexDigit_selector he _ hspace) (by decide)
  · exact absurd (htail _ hspace) (by decide)

/-- What begins with a bracket says no reason: no selector does. -/
theorem not_says_of_bracket {digits : List Char} (hbracket : digits.head? = some '(')
    (reason : Text) : ¬ Says digits reason := by
  have hselectors : ∀ e ∈ Revert.declared, e.1.toList.head? = some '(' → False := by
    rw [declared_eq]
    decide
  intro h
  cases h with
  | @declared e rest he hdigits =>
    refine hselectors e he ?_
    have hsome : (e.1.toList.head?).isSome = true := by
      rw [List.isSome_head?, ← List.length_pos_iff, length_selector he]
      decide
    rwa [hdigits, List.head?_append, Option.or_of_isSome hsome] at hbracket
  | message hdigits _ _ =>
    rw [hdigits] at hbracket
    cases hbracket

/-- The text of a declared error is that of a pair, which begins with a bracket. -/
theorem head?_digitsOf_text {r : Report} (hkind : r.kind = .custom) (hbuilt : r.attributes = []) :
    (digitsOf r.text).head? = some '(' := by
  have hparts : r.parts = [r.first, r.second] := by
    simp [Report.parts, Report.later?, hbuilt, Value.field?, Report.shownArguments, hkind]
  have htext : r.text = Text.ofString
      ("(" ++ String.intercalate ", " (Value.literals [r.first, r.second]) ++ ")") := by
    simp [Report.text, hkind, hparts, Report.argumentsText, Value.literal]
  rw [digitsOf, htext, Text.ofString, chars_ofChars, String.toList_append, String.toList_append]
  rfl

/-- An error that the contract declares, and whose data are no text, is told by its text alone. The
text of its report begins with a bracket and so is no payload. -/
theorem recognise?_custom {f : Fault} {r : Report} (hreport : f.report? = some r)
    (hkind : r.kind = .custom) (hbuilt : r.attributes = []) (hdata : ∀ t, r.second ≠ .text t) :
    recognise? f = (reasonOfText? f.spoken).map .reverted := by
  have hevidence : Evidence.ofFault f = .ofReport r := by
    cases f <;> cases hreport <;> rfl
  have hattribute : r.attribute? "data" = some r.second := by
    simp [Report.attribute?_of_built hbuilt, Report.ownAttribute?, hkind]
  have hpayload : (Evidence.ofReport r).payloadText? = some r.text := by
    simp only [Evidence.payloadText?, Evidence.ofReport, hkind, hattribute, Option.getD_some]
    cases hsecond : r.second with
    | text t => exact absurd hsecond (hdata t)
    | _ => rfl
  have hnone : reasonOfPayload? r.text = none := by
    rw [reasonOfPayload?_eq_none_iff]
    exact not_says_of_bracket (head?_digitsOf_text hkind hbuilt)
  rw [recognise?_eq, hevidence, hpayload, Option.bind_some, hnone]
  rfl

/-- An error that the contract declares is recognised by the payload that it carries exactly if the
payload is its data. In the message the payload is not found, and nothing is recognised. -/
theorem recognises_carried_iff {f : Fault} {r : Report} (hreport : f.report? = some r)
    (hkind : r.kind = .custom) (hbuilt : r.attributes = []) {e : String × String}
    (he : e ∈ declared) {payload : Text} (hpayload : IsPayloadOf e payload)
    (hcarries : Carries r payload) :
    (recognise? f = some (.reverted e.2) ↔ r.second = .text payload) ∧
      (r.second ≠ .text payload → recognise? f = none) := by
  have hattribute (name : String) : f.attribute? name = r.ownAttribute? name := by
    rw [Fault.attribute?, hreport, Option.bind_some, Report.attribute?_of_built hbuilt]
  have hinData (hsecond : r.second = .text payload) : recognise? f = some (.reverted e.2) := by
    have hcall : f.isRevertedCall = true := by simp [Fault.isRevertedCall, hreport, hkind]
    have hdata : f.attribute? "data" = some (.text payload) := by
      simp [hattribute, Report.ownAttribute?, hkind, hsecond]
    exact recognise?_of_says hcall hdata (hpayload.says_name he)
  have hinMessage (hsecond : r.second ≠ .text payload) : recognise? f = none := by
    obtain ⟨hdata, hfirst⟩ := hcarries.resolve_left hsecond
    have hmessage : f.attribute? "message" = some (.text payload) := by
      simp [hattribute, Report.ownAttribute?, hkind, hfirst]
    have hspoken : f.spoken = payload := by rw [Fault.spoken, hmessage]
    rw [recognise?_custom hreport hkind hbuilt hdata, hspoken, Option.map_eq_none_iff,
      ← Option.not_isSome_iff_eq_none, reasonOfText?_isSome_iff]
    exact hpayload.not_speaks he
  refine ⟨⟨fun hrecognised => ?_, hinData⟩, hinMessage⟩
  by_contra hsecond
  rw [hinMessage hsecond] at hrecognised
  cases hrecognised

/-- An error with the payload of `InvalidProof` in its message and without data. -/
def mutteredFault : Fault := .reported "ContractCustomError" ⟨.custom, [.text "0x09BDE339ab"], []⟩

/-- The same payload as data, with no message. -/
def plainFault : Fault :=
  .reported "ContractCustomError" ⟨.custom, [.nothing, .text "0x09BDE339ab"], []⟩

theorem invalidProof_mem_declared : ("09bde339", "InvalidProof") ∈ declared := by
  rw [declared_eq]
  decide

theorem isPayloadOf_invalidProof : IsPayloadOf ("09bde339", "InvalidProof") "0x09BDE339ab" := by
  have hdigits : ['a', 'b'].all isHexDigit = true := by decide
  exact ⟨['a', 'b'], List.all_eq_true.mp hdigits, by decide⟩

theorem carries_mutteredFault :
    Carries ⟨.custom, [.text "0x09BDE339ab"], []⟩ "0x09BDE339ab" :=
  .inr ⟨by simp [Report.second, Report.argument], rfl⟩

theorem recognises_carried_plainFault :
    recognise? plainFault = some (.reverted "InvalidProof") ∧ recognise? mutteredFault = none :=
  ⟨(recognises_carried_iff (f := plainFault) rfl rfl rfl (e := ("09bde339", "InvalidProof"))
      invalidProof_mem_declared isPayloadOf_invalidProof (.inl rfl)).1.mpr rfl,
    (recognises_carried_iff (f := mutteredFault) rfl rfl rfl invalidProof_mem_declared
      isPayloadOf_invalidProof carries_mutteredFault).2 (by simp [Report.second, Report.argument])⟩

theorem overlooks_mutteredFault :
    IsPayloadOf ("09bde339", "InvalidProof") "0x09BDE339ab" ∧
      Carries ⟨.custom, [.text "0x09BDE339ab"], []⟩ "0x09BDE339ab" ∧
      recognise? mutteredFault ≠ some (.reverted "InvalidProof") := by
  refine ⟨isPayloadOf_invalidProof, carries_mutteredFault, ?_⟩
  have hnone : reasonOfText? mutteredFault.spoken = none := by decide +kernel
  rw [recognise?_custom (f := mutteredFault) rfl rfl rfl
    (by simp [Report.second, Report.argument]), hnone]
  simp

end Revert

end BatchFrontier
