import BatchFrontier.Proofs.HexReading
import BatchFrontier.Revert
import Mathlib.Data.List.TakeWhile

/-!
# Texts that speak of a revert

A text speaks of a revert if the marker stands in it, then blanks or none, then a code that does not
end a reason. Searching for a reason succeeds exactly on such texts. A quoted text holds no newline,
so there the code right after the marker decides.
-/

namespace BatchFrontier

namespace Revert

open BatchFrontier.Text

/-- That a reason can be read from some codes: after blanks or none there is a code that does not
end a reason. -/
def GivesReason (rest : List Code) : Prop :=
  ∃ blanks c after, rest = blanks ++ c :: after ∧
    (∀ b ∈ blanks, b.satisfies isBlank = true) ∧ c.satisfies endsReason = false

/-- That a text holds the marker and a reason after it. -/
def Speaks (t : Text) : Prop :=
  ∃ before rest, t.codes = before ++ (marker.codes ++ rest) ∧ GivesReason rest

/-- What ends a reason is no blank but the newline. -/
theorem endsReason_of_isBlank {c : Code} (h : c.satisfies isBlank = true)
    (hends : c.satisfies endsReason = true) : c = .char '\n' := by
  cases c with
  | half n => exact absurd h (by simp [Code.satisfies])
  | char c =>
    simp only [Code.satisfies, endsReason, Bool.or_eq_true, beq_iff_eq] at h hends
    rcases hends with ((rfl | rfl) | rfl) | rfl
    · exact absurd h (by decide)
    · exact absurd h (by decide)
    · rfl
    · exact absurd h (by decide)

/-- A reason starts after the blanks, or with the last blank that is no newline. -/
theorem reasonAfterMarker?_isSome_iff_of_blanks (rest : List Code) :
    (reasonAfterMarker? rest).isSome = true ↔
      (rest.drop (rest.takeWhile (Code.satisfies isBlank)).length).takeWhile
          (fun c => !c.satisfies endsReason) ≠ [] ∨
        (rest.takeWhile (Code.satisfies isBlank)).any (· != .char '\n') = true := by
  unfold reasonAfterMarker?
  simp only
  split
  · next hbody => exact ⟨fun _ => .inl hbody, fun _ => rfl⟩
  · next hbody =>
    split
    · next hblank => exact ⟨fun _ => .inr hblank, fun _ => rfl⟩
    · next hblank => simp [hbody, hblank]

/-- The codes after the marker give a reason exactly if a code after their blanks can stand in it,
or a blank can. -/
theorem reasonAfterMarker?_isSome_iff (rest : List Code) :
    (reasonAfterMarker? rest).isSome = true ↔ GivesReason rest := by
  have hsplit : rest.takeWhile (Code.satisfies isBlank) ++
      rest.drop (rest.takeWhile (Code.satisfies isBlank)).length = rest :=
    List.prefix_iff_eq_append.mp (List.takeWhile_prefix _)
  have hall : ∀ b ∈ rest.takeWhile (Code.satisfies isBlank), b.satisfies isBlank = true :=
    fun b hb => List.mem_takeWhile_imp hb
  rw [reasonAfterMarker?_isSome_iff_of_blanks]
  constructor
  · generalize rest.takeWhile (Code.satisfies isBlank) = blanks at hsplit hall
    generalize rest.drop blanks.length = tail at hsplit
    subst hsplit
    rintro (hbody | hblank)
    · cases tail with
      | nil => exact absurd rfl hbody
      | cons c after =>
        refine ⟨blanks, c, after, rfl, hall, ?_⟩
        by_contra hends
        simp [hends] at hbody
    · obtain ⟨b, hb, hne⟩ := List.any_eq_true.mp hblank
      obtain ⟨before, behind, rfl⟩ := List.append_of_mem hb
      refine ⟨before, b, behind ++ tail, by simp, fun d hd => hall d (List.mem_append_left _ hd),
        ?_⟩
      by_contra hends
      have hnewline := endsReason_of_isBlank (hall b hb) (by simpa using hends)
      simp [hnewline] at hne
  · rintro ⟨blanks, c, after, rfl, hblanks, hc⟩
    have htake : (blanks ++ c :: after).takeWhile (Code.satisfies isBlank) =
        blanks ++ (c :: after).takeWhile (Code.satisfies isBlank) :=
      List.takeWhile_append_of_pos hblanks
    by_cases hblank : c.satisfies isBlank = true
    · refine .inr (List.any_eq_true.mpr ⟨c, ?_, ?_⟩)
      · rw [htake, List.takeWhile_cons_of_pos hblank]
        simp
      · rw [bne_iff_ne]
        rintro rfl
        exact absurd hc (by decide)
    · refine .inl ?_
      rw [htake, List.takeWhile_cons_of_neg hblank, List.append_nil, List.drop_left,
        List.takeWhile_cons]
      simp [hc]

/-- A reason starts right here if the marker stands here and gives one. -/
theorem reasonHere_isSome_iff (cs : List Code) :
    (if marker.codes.isPrefixOf cs then reasonAfterMarker? (cs.drop marker.length)
      else none).isSome = true ↔ ∃ rest, cs = marker.codes ++ rest ∧ GivesReason rest := by
  by_cases hprefix : marker.codes.isPrefixOf cs = true
  · obtain ⟨rest, hrest⟩ := List.isPrefixOf_iff_prefix.mp hprefix
    have hdrop : cs.drop marker.length = rest := by
      rw [← hrest]
      exact List.drop_left
    rw [if_pos hprefix, hdrop, reasonAfterMarker?_isSome_iff]
    constructor
    · intro h
      exact ⟨rest, hrest.symm, h⟩
    · rintro ⟨rest', hrest', h⟩
      obtain rfl := List.append_cancel_left (hrest.trans hrest')
      exact h
  · rw [if_neg hprefix]
    constructor
    · intro h
      cases h
    · rintro ⟨rest, hrest, -⟩
      exact absurd (List.isPrefixOf_iff_prefix.mpr ⟨rest, hrest.symm⟩) hprefix

/-- A reason is found exactly in texts that speak of a revert. -/
theorem reasonOfText?_isSome_iff (t : Text) : (reasonOfText? t).isSome = true ↔ Speaks t := by
  obtain ⟨cs⟩ := t
  unfold reasonOfText? Speaks
  induction cs with
  | nil =>
    constructor
    · intro h
      cases h
    · rintro ⟨before, rest, h, -⟩
      have hlength := congrArg List.length h
      simp [marker, Text.ofString, Text.ofChars] at hlength
  | cons c cs ih =>
    have hchoice (x y : Option Text) :
        (x.orElse fun _ => y).isSome = true ↔ x.isSome = true ∨ y.isSome = true := by
      cases x <;> simp
    rw [reasonOfCodes?, hchoice, reasonHere_isSome_iff, ih]
    constructor
    · rintro (⟨rest, hrest, h⟩ | ⟨before, rest, hbefore, h⟩)
      · exact ⟨[], rest, hrest, h⟩
      · exact ⟨c :: before, rest, by rw [List.cons_append, ← hbefore], h⟩
    · rintro ⟨before, rest, hbefore, h⟩
      cases before with
      | nil => exact .inl ⟨rest, hbefore, h⟩
      | cons b before =>
        rw [List.cons_append, List.cons.injEq] at hbefore
        exact .inr ⟨before, rest, hbefore.2, h⟩

/-- Where no newline stands in a text, the code right after a marker decides. -/
theorem speaks_iff_of_not_mem {t : Text} (h : Code.char '\n' ∉ t.codes) :
    Speaks t ↔ ∃ before c after, t.codes = before ++ (marker.codes ++ c :: after) ∧
      c.satisfies endsReason = false := by
  constructor
  · rintro ⟨before, rest, ht, blanks, c, after, rfl, hblanks, hc⟩
    cases blanks with
    | nil => exact ⟨before, c, after, ht, hc⟩
    | cons b blanks =>
      refine ⟨before, b, blanks ++ c :: after, by rw [ht, List.cons_append], ?_⟩
      by_contra hends
      have hnewline := endsReason_of_isBlank (hblanks b List.mem_cons_self) (by simpa using hends)
      refine h ?_
      rw [ht, ← hnewline]
      simp
  · rintro ⟨before, c, after, ht, hc⟩
    exact ⟨before, c :: after, ht, [], c, after, rfl, by simp, hc⟩

end Revert

namespace Text

/-- An escape holds no newline. -/
theorem newline_not_mem_codeEscape (n : Nat) : '\n' ∉ codeEscape n := by
  have hdigits (width : Nat) : '\n' ∉ hexOfWidth width n := fun h =>
    absurd (isHexDigit_of_mem_hexOfWidth h) (by decide)
  unfold codeEscape
  split
  · simp [hdigits]
  · split <;> simp [hdigits]

/-- A code between quotation marks is written without a newline. -/
theorem newline_not_mem_quotedCode {mark : Char} (hmark : mark ≠ '\n') (c : Code) :
    '\n' ∉ quotedCode mark c := by
  cases c with
  | half n => exact newline_not_mem_codeEscape _
  | char c =>
    change '\n' ∉ quotedChar mark c
    unfold quotedChar
    split
    · next hc =>
      rcases hc with rfl | rfl
      · simp [Ne.symm hmark]
      · simp
    · split
      · simp
      · next hc =>
        split
        · simp
        · split
          · simp
          · split
            · simp [Ne.symm hc]
            · exact newline_not_mem_codeEscape _

/-- A quoted text holds no newline. -/
theorem newline_not_mem_quote (t : Text) : '\n' ∉ (quote t).toList := by
  have hmark : quoteMark t.chars ≠ '\n' := by
    unfold quoteMark
    split <;> decide
  intro h
  rw [quote, String.toList_ofList, quotedChars] at h
  simp only [List.cons_append, List.mem_cons, List.mem_append, List.mem_flatMap,
    List.not_mem_nil, or_false] at h
  rcases h with h | ⟨c, -, hc⟩ | h
  · exact hmark h.symm
  · exact newline_not_mem_quotedCode hmark c hc
  · exact hmark h.symm

end Text

namespace Revert

open BatchFrontier.Text

/-- A quoted text speaks of a revert exactly if in it a marker stands before a character that is
neither a quotation mark nor a closing brace. -/
theorem speaks_quote_iff (t : Text) : Speaks (quote t) ↔ ∃ before c after,
    (quote t).toList = before ++ ("execution reverted:".toList ++ c :: after) ∧
      c ∉ ['\'', '"', '}'] := by
  have hnewline : Code.char '\n' ∉ (Text.ofString (quote t)).codes := by
    simp only [Text.ofString, Text.ofChars, List.mem_map, not_exists, not_and]
    rintro c hc heq
    obtain rfl := Code.char.inj heq
    exact newline_not_mem_quote t hc
  rw [speaks_iff_of_not_mem hnewline]
  constructor
  · rintro ⟨before, c, after, hcodes, hc⟩
    obtain ⟨front, rest, hfront, -, hrest⟩ := List.map_eq_append_iff.mp hcodes
    obtain ⟨mid, last, rfl, hmid, hlast⟩ := List.map_eq_append_iff.mp hrest
    obtain ⟨d, back, rfl, rfl, -⟩ := List.map_eq_cons_iff.mp hlast
    have hmarker : mid = "execution reverted:".toList :=
      (List.map_inj_right fun _ _ => Code.char.inj).mp hmid
    rw [hmarker] at hfront
    refine ⟨front, d, back, hfront, ?_⟩
    simp only [Code.satisfies, endsReason, Bool.or_eq_false_iff, beq_eq_false_iff_ne] at hc
    simp [hc]
  · rintro ⟨before, c, after, hchars, hc⟩
    have hmem : c ∈ (quote t).toList := by
      rw [hchars]
      simp
    have hne : c ≠ '\n' := by
      rintro rfl
      exact newline_not_mem_quote t hmem
    refine ⟨before.map .char, .char c, after.map .char, ?_, ?_⟩
    · simp [Text.ofString, Text.ofChars, hchars, marker]
    · simpa [Code.satisfies, endsReason, hne, and_assoc] using hc

end Revert

end BatchFrontier
