import BatchFrontier.Chain.Refusal
import BatchFrontier.Proofs.FaultKinds

/-!
# What a rejected call fails with

An error object that answers a call stands for a fault that is expected, whatever its code, its
message and its data say. There is one exception: data that begin like a request for data from
elsewhere and cannot be read as one.
-/

namespace BatchFrontier

namespace Fault

/-- Whether a fault is expected, is no report of a failure elsewhere and does not refuse a chain id
of zero. -/
def isPlain : Fault → Bool
  | .reported .. | .emptyChainId _ => false
  | f => f.isExpected

theorem isExpected_of_isPlain {f : Fault} (h : f.isPlain = true) : f.isExpected = true := by
  cases f with
  | reported label r => cases h
  | emptyChainId rollup => cases h
  | _ => exact h

/-- Whether a fault says that data in words cannot be read. -/
def isMalformed : Fault → Bool
  | .words _ | .hugeCount | .utf8 _ => true
  | _ => false

end Fault

open FailsOnly

theorem Value.bytesOfText_plain (t : Text) : FailsOnly Fault.isPlain (bytesOfText t) := by
  unfold bytesOfText
  simp only
  split
  · exact error rfl
  · split
    · exact ok _
    · exact error rfl

/-! ## Requests for data from elsewhere -/

namespace Abi.Lookup

variable (bs : List UInt8) (start : Nat)

theorem wordAt_malformed : FailsOnly Fault.isMalformed (wordAt bs start) := by
  unfold wordAt
  simp only
  split
  · exact ok _
  · exact error rfl

theorem numberAt_malformed : FailsOnly Fault.isMalformed (numberAt bs start) :=
  (wordAt_malformed bs start).map _

theorem requireZeros_malformed (filling : List UInt8) :
    FailsOnly Fault.isMalformed (requireZeros filling) := by
  unfold requireZeros
  split
  · exact ok _
  · exact error rfl

theorem addressAt_malformed : FailsOnly Fault.isMalformed (addressAt bs start) := by
  refine (wordAt_malformed bs start).bind fun word _ =>
    (requireZeros_malformed _).bind fun _ _ => ?_
  split
  · exact ok _
  · exact error rfl

theorem selectorAt_malformed : FailsOnly Fault.isMalformed (selectorAt bs start) :=
  (wordAt_malformed bs start).bind fun _ _ => (requireZeros_malformed _).bind fun _ _ => ok _

theorem bytesAt_malformed : FailsOnly Fault.isMalformed (bytesAt bs start) := by
  refine (numberAt_malformed bs start).bind fun length _ => ?_
  simp only
  split
  · exact error rfl
  · split
    · exact error rfl
    · exact (requireZeros_malformed _).bind fun _ _ => ok _

theorem textAt_malformed : FailsOnly Fault.isMalformed (textAt bs start) := by
  refine (bytesAt_malformed bs start).bind fun text _ => ?_
  split
  · exact ok _
  · exact error rfl

theorem checkDistances_malformed (limit place count : Nat) :
    FailsOnly Fault.isMalformed (checkDistances bs start limit place count) := by
  induction count generalizing place with
  | zero => exact ok _
  | succ count ih =>
    refine (numberAt_malformed bs place).bind fun distance _ => ?_
    split
    · exact ih _
    · exact error rfl

theorem readTexts_malformed (place count : Nat) :
    FailsOnly Fault.isMalformed (readTexts bs start place count) := by
  induction count generalizing place with
  | zero => exact ok _
  | succ count ih =>
    exact (numberAt_malformed bs place).bind fun _ _ => (textAt_malformed bs _).bind fun _ _ =>
      (ih _).bind fun _ _ => ok _

theorem textsAt_malformed : FailsOnly Fault.isMalformed (textsAt bs start) :=
  (numberAt_malformed bs start).bind fun _ _ =>
    (checkDistances_malformed bs _ _ _ _).bind fun _ _ => readTexts_malformed bs _ _ _

theorem checkDistance_malformed (place : Nat) :
    FailsOnly Fault.isMalformed (checkDistance bs place) := by
  refine (numberAt_malformed bs place).bind fun distance _ => ?_
  split
  · exact ok _
  · exact error rfl

/-- A request that cannot be read is malformed. -/
theorem ofBytes_malformed : FailsOnly Fault.isMalformed (ofBytes bs) :=
  (addressAt_malformed bs 0).bind fun _ _ => (checkDistance_malformed bs 32).bind fun _ _ =>
    (checkDistance_malformed bs 64).bind fun _ _ => (selectorAt_malformed bs 96).bind fun _ _ =>
    (checkDistance_malformed bs 128).bind fun _ _ => (numberAt_malformed bs 32).bind fun _ _ =>
    (textsAt_malformed bs _).bind fun _ _ => (numberAt_malformed bs 64).bind fun _ _ =>
    (bytesAt_malformed bs _).bind fun _ _ => (numberAt_malformed bs 128).bind fun _ _ =>
    (bytesAt_malformed bs _).bind fun _ _ => ok _

end Abi.Lookup

namespace Chain

theorem Place.search_plain (sender question : Text) (urls : List Text) :
    (Place.search sender question urls).isPlain = true := by
  induction urls with
  | nil => rfl
  | cons url rest ih =>
    unfold Place.search
    split
    · rfl
    · exact ih

namespace Refusal

/-- A request whose data can be read fails with what is expected, and one whose data cannot be read
with that. -/
theorem lookupFault_plain_or_malformed (address : Address) (data : Text) :
    (lookupFault address data).isPlain = true ∨
      ∃ bs, Value.bytesOfText (data.drop lookupMark.length) = .ok bs ∧
        Abi.Lookup.ofBytes bs = .error (lookupFault address data) := by
  cases hbytes : Value.bytesOfText (data.drop lookupMark.length) with
  | error f =>
    have hfault : lookupFault address data = f := by
      simp [lookupFault, hbytes, Bind.bind, Except.bind]
    exact .inl (hfault ▸ Value.bytesOfText_plain _ f hbytes)
  | ok bs =>
    cases hlookup : Abi.Lookup.ofBytes bs with
    | error f =>
      have hfault : lookupFault address data = f := by
        simp [lookupFault, hbytes, hlookup, Bind.bind, Except.bind]
      exact .inr ⟨bs, rfl, hfault ▸ hlookup⟩
    | ok l =>
      left
      simp only [lookupFault, hbytes, hlookup, Bind.bind, Except.bind]
      split
      · exact Place.search_plain _ _ _
      · rfl

theorem lookupFault_of_malformed (address : Address) {data : Text} {bs : List UInt8} {f : Fault}
    (hbytes : Value.bytesOfText (data.drop lookupMark.length) = .ok bs)
    (hlookup : Abi.Lookup.ofBytes bs = .error f) : lookupFault address data = f := by
  simp [lookupFault, hbytes, hlookup, Bind.bind, Except.bind]

/-! ## Other refusals -/

theorem panicFault_plain (data : Text) : (panicFault data).isPlain = true := by
  unfold panicFault
  simp only
  split <;> rfl

theorem markedFault_plain (data : Text) : (markedFault data).isPlain = true := by
  have hdigits : FailsOnly Fault.isPlain (markedDigits data) := by
    unfold markedDigits
    simp only
    split
    · split
      · exact ok _
      · exact error rfl
    · split <;> exact ok _
  unfold markedFault
  split
  · next f hf => exact hdigits f hf
  · split
    · rfl
    · split <;> rfl

theorem wordFault?_plain {e : ErrorObject} {data : Value} {f : Fault}
    (h : wordFault? e data = some f) : f.isPlain = true := by
  unfold wordFault? at h
  split at h
  · cases h
  · split at h
    · exact Option.some.inj h ▸ rfl
    · split at h
      · exact Option.some.inj h ▸ rfl
      · cases h

/-- That an error object has data that begin like a request for data from elsewhere. -/
def AsksElsewhere (e : ErrorObject) (data : Text) : Prop :=
  Value.field? e.fields "data" = some (.text data) ∧ data.beginsWith markedWord = false ∧
    data.beginsWith lookupMark = true

theorem dataFault?_of_asks {address : Address} {data : Text}
    (hmarked : data.beginsWith markedWord = false) (hasks : data.beginsWith lookupMark = true) :
    dataFault? address data = some (lookupFault address data) := by
  rw [dataFault?, if_neg (by simp [hmarked]), if_pos hasks]

/-- A request for data from elsewhere fails as that. -/
theorem callFault_of_asks {e : ErrorObject} {data : Text} (h : AsksElsewhere e data)
    (address : Address) : callFault address e = lookupFault address data := by
  obtain ⟨hdata, hmarked, hasks⟩ := h
  simp [callFault, callFault?, hdata, dataFault?_of_asks hmarked hasks]

/-- Data that tell of a fault tell of one that is expected, or begin like a request. -/
theorem dataFault?_plain_or_asks {address : Address} {data : Text} {f : Fault}
    (h : dataFault? address data = some f) : f.isPlain = true ∨
      data.beginsWith markedWord = false ∧ data.beginsWith lookupMark = true := by
  unfold dataFault? at h
  split at h
  · exact .inl (Option.some.inj h ▸ markedFault_plain data)
  · next hmarked =>
    split at h
    · next hasks => exact .inr ⟨by simpa using hmarked, hasks⟩
    · split at h
      · exact .inl (Option.some.inj h ▸ panicFault_plain data)
      · split at h
        · exact .inl (Option.some.inj h ▸ rfl)
        · cases h

/-- An error object without a request fails with what is expected. -/
theorem callFault_plain_or_asks (address : Address) (e : ErrorObject) :
    (callFault address e).isPlain = true ∨ ∃ data, AsksElsewhere e data := by
  unfold callFault
  cases hfault : callFault? address e with
  | none => exact .inl rfl
  | some f =>
    rw [Option.getD_some]
    unfold callFault? at hfault
    split at hfault
    · exact .inl (Option.some.inj hfault ▸ rfl)
    · split at hfault
      · cases hfault
      · exact .inl (Option.some.inj hfault ▸ rfl)
    · next data hfield =>
      cases hdata : dataFault? address data with
      | none => exact .inl (wordFault?_plain (by simpa [hdata] using hfault))
      | some g =>
        obtain rfl : g = f := by simpa [hdata] using hfault
        rcases dataFault?_plain_or_asks hdata with hplain | ⟨hmarked, hasks⟩
        · exact .inl hplain
        · refine .inr ⟨data, ?_, hmarked, hasks⟩
          cases hgiven : Value.field? e.fields "data" with
          | some v =>
            rw [hgiven, Option.getD_some] at hfield
            rw [hfield]
          | none =>
            -- Without data there is a text in their place that begins in no such way.
            rw [hgiven, Option.getD_none] at hfield
            obtain rfl := Value.text.inj hfield
            exact absurd hasks (by decide)
    · exact .inl (wordFault?_plain hfault)

/-- A rejected call fails with what is expected, unless its data cannot be read as the request that
they begin like. -/
theorem callFault_plain_or_malformed (address : Address) (e : ErrorObject) :
    (callFault address e).isPlain = true ∨ ∃ data bs, AsksElsewhere e data ∧
      Value.bytesOfText (data.drop lookupMark.length) = .ok bs ∧
      Abi.Lookup.ofBytes bs = .error (callFault address e) := by
  rcases callFault_plain_or_asks address e with hplain | ⟨data, hasks⟩
  · exact .inl hplain
  · rw [callFault_of_asks hasks]
    rcases lookupFault_plain_or_malformed address data with hplain | ⟨bs, hbytes, hlookup⟩
    · exact .inl hplain
    · exact .inr ⟨data, bs, hasks, hbytes, hlookup⟩

end Refusal

end Chain

end BatchFrontier
