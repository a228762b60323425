import BatchFrontier.Proofs.RevertReasons

/-!
# Reasons that are read again

A text may be a reason if it has no blanks at its ends and holds no code that ends reasons. Only
such texts are read as reasons, and they are all read again: the text of a revert is the marker, a
space and the reason, and what is found in it is the reason alone. So a revert that was recognised
by its text is recognised as itself from then on. Neither another marker inside the reason nor an
empty reason, of which only the space is left to read, makes a difference.
-/

namespace BatchFrontier.Revert

open BatchFrontier.Text

/-- That a text may be a reason. -/
structure IsReason (reason : Text) : Prop where
  head : ∀ c ∈ reason.codes.head?, c.satisfies isBlank = false
  last : ∀ c ∈ reason.codes.getLast?, c.satisfies isBlank = false
  free : ∀ c ∈ reason.codes, c.satisfies endsReason = false

/-- What is read from a text may be a reason. -/
theorem isReason_of_reasonOfText? {t reason : Text} (h : reasonOfText? t = some reason) :
    IsReason reason := by
  obtain ⟨o, -, htrimmed⟩ := reasonOfText?_eq_some_iff.mp h
  exact ⟨htrimmed.head, htrimmed.last, o.free_of_isTrimmed htrimmed⟩

/-- What may be a reason has no ends to trim. -/
theorem IsReason.trimWhere_eq {reason : Text} (h : IsReason reason) :
    trimWhere (Code.satisfies isBlank) reason.codes = reason.codes :=
  (IsTrimmed.eq_trimWhere ⟨⟨[], [], by simp, by simp, by simp⟩, h.head, h.last⟩).symm

/-- After a space a reason is read as it is. If it is empty, the space is read and trimmed. -/
theorem IsReason.reasonAfterMarker?_eq {reason : Text} (h : IsReason reason) :
    reasonAfterMarker? (.char ' ' :: reason.codes) = some reason := by
  have hspace : Code.satisfies isBlank (.char ' ') = true := by decide
  have hblanks : (Code.char ' ' :: reason.codes).takeWhile (Code.satisfies isBlank) =
      [.char ' '] := by
    rw [List.takeWhile_cons_of_pos hspace]
    cases hcodes : reason.codes with
    | nil => rfl
    | cons c cs => rw [List.takeWhile_cons_of_neg (by simp [h.head c (by simp [hcodes])])]
  have hbody : reason.codes.takeWhile (fun c => !c.satisfies endsReason) = reason.codes := by
    rw [List.takeWhile_eq_self_iff]
    intro c hc
    simp [h.free c hc]
  unfold reasonAfterMarker?
  simp only [hblanks, List.length_singleton, List.drop_succ_cons, List.drop_zero, hbody]
  split
  · rw [h.trimWhere_eq]
  · next hempty =>
    obtain ⟨codes⟩ := reason
    obtain rfl : codes = [] := not_not.mp hempty
    rfl

/-- From the text of a revert its reason is read, if it may be one. The search ends at the marker in
front, so no other marker is looked at. -/
theorem IsReason.reasonOfText?_eq {reason : Text} (h : IsReason reason) :
    reasonOfText? ("execution reverted: " ++ reason) = some reason := by
  have hspaced : ("execution reverted: " : Text).codes = marker.codes ++ [.char ' '] := by
    decide +kernel
  have hcodes : (("execution reverted: " : Text) ++ reason).codes =
      marker.codes ++ .char ' ' :: reason.codes := by
    rw [Text.codes_append, hspaced, List.append_assoc, List.singleton_append]
  have hfront : marker.codes.isPrefixOf (marker.codes ++ .char ' ' :: reason.codes) = true :=
    List.isPrefixOf_iff_prefix.mpr (List.prefix_append _ _)
  have hrest : (marker.codes ++ .char ' ' :: reason.codes).drop marker.length =
      .char ' ' :: reason.codes := List.drop_left
  have hhere : (if marker.codes.isPrefixOf (marker.codes ++ .char ' ' :: reason.codes) then
      reasonAfterMarker? ((marker.codes ++ .char ' ' :: reason.codes).drop marker.length)
      else none) = some reason := by
    rw [if_pos hfront, hrest, h.reasonAfterMarker?_eq]
  rw [reasonOfText?, hcodes]
  generalize marker.codes ++ .char ' ' :: reason.codes = text at hhere
  cases text with
  | nil => cases hhere
  | cons c cs => rw [reasonOfCodes?, hhere]; rfl

/-- A revert shows no payload, so its text decides. -/
theorem lacksPayload_reverted (reason : Text) : LacksPayload (.reverted reason) := by
  intro payload hpayload
  cases hpayload

/-- A revert is recognised as itself exactly if its reason may be one. -/
theorem recognise?_reverted_iff {reason : Text} :
    recognise? (.reverted reason) = some (.reverted reason) ↔ IsReason reason := by
  rw [recognise?_of_lacksPayload (lacksPayload_reverted reason), Option.map_eq_some_iff]
  constructor
  · rintro ⟨found, hfound, hsame⟩
    obtain rfl := Fault.reverted.inj hsame
    exact isReason_of_reasonOfText? hfound
  · intro h
    exact ⟨reason, h.reasonOfText?_eq, rfl⟩

/-- How a fault and the revert that it is recognised as are read. -/
structure ReadsBack (f : Fault) : Prop where
  /-- What is recognised is a revert, and recognised again as the same one, with the same text. -/
  again : ∀ g, recognise? f = some g → recognise? g = some g ∧
    ∃ reason, IsReason reason ∧ g = .reverted reason ∧ g.message = "execution reverted: " ++ reason
  /-- If the text that is searched is that of a revert whose reason may be one, it is recognised as
  that revert. -/
  exact : ∀ reason, IsReason reason → f.spoken = "execution reverted: " ++ reason →
    recognise? f = some (.reverted reason)

/-- A fault without a payload that tells a reason is recognised by its text as a revert, and this
revert as itself. -/
theorem readsBack_of_lacksPayload {f : Fault} (h : LacksPayload f) : ReadsBack f := by
  have hsearch := recognise?_of_lacksPayload h
  constructor
  · intro g hg
    rw [hsearch, Option.map_eq_some_iff] at hg
    obtain ⟨reason, hreason, rfl⟩ := hg
    have hmay := isReason_of_reasonOfText? hreason
    exact ⟨recognise?_reverted_iff.mpr hmay, reason, hmay, rfl, rfl⟩
  · intro reason hmay hspoken
    rw [hsearch, hspoken, hmay.reasonOfText?_eq]
    rfl

/-- A failure whose text has blanks of several kinds around a reason that is another marker. -/
def nestedFault : Fault :=
  .reported "RuntimeError" ⟨.plain,
    [.text "(execution reverted:\n\u2003execution reverted:\u00a0 \"twice\")"], []⟩

/-- A failure with the text of a revert that has no reason. -/
def speechlessFault : Fault :=
  .reported "RuntimeError" ⟨.plain, [.text "execution reverted: "], []⟩

theorem readsBack_nestedFault :
    LacksPayload nestedFault ∧ LacksPayload speechlessFault ∧ IsReason "" ∧
      recognise? nestedFault = some (.reverted "execution reverted:") ∧
      recognise? (.reverted "execution reverted:") = some (.reverted "execution reverted:") ∧
      recognise? speechlessFault = some (.reverted "") := by
  have hlacks (label : String) (r : Report) (hplain : r.kind = .plain) :
      LacksPayload (.reported label r) := by
    intro payload hpayload
    simp [Evidence.ofFault, Evidence.ofReport, Evidence.payloadText?, hplain] at hpayload
  have hnested : LacksPayload nestedFault := hlacks _ _ rfl
  have hspeechless : LacksPayload speechlessFault := hlacks _ _ rfl
  have hempty : IsReason "" := by constructor <;> decide
  have hreason : (Evidence.ofFault nestedFault).reason? = some "execution reverted:" := by
    decide +kernel
  have hfirst : recognise? nestedFault = some (.reverted "execution reverted:") := by
    rw [recognise?, hreason]
    rfl
  have hspoken : speechlessFault.spoken = "execution reverted: " ++ "" := by decide +kernel
  exact ⟨hnested, hspeechless, hempty, hfirst,
    ((readsBack_of_lacksPayload hnested).again _ hfirst).1,
    (readsBack_of_lacksPayload hspeechless).exact "" hempty hspoken⟩

end BatchFrontier.Revert
