import BatchFrontier.Calendar
import BatchFrontier.Network
import BatchFrontier.Proofs.HexReading
import BatchFrontier.Proofs.JsonReading

/-!
# Texts that are written as they stand

The texts that documents hold are made of a few kinds of pieces: words that are known beforehand,
numbers in decimal digits, and bytes in hexadecimal digits. No character of a piece is escaped when
it is written, so neither is any of what is put together from pieces.
-/

namespace BatchFrontier

namespace Json

/-- Texts that are written as they stand are so one after the other. -/
theorem IsPlainText.append {s t : Text} (hs : IsPlainText s) (ht : IsPlainText t) :
    IsPlainText (s ++ t) := by
  obtain ⟨cs, rfl, hcs⟩ := hs
  obtain ⟨ds, rfl, hds⟩ := ht
  refine ⟨cs ++ ds, ?_, ?_⟩
  · exact congrArg Text.mk List.map_append.symm
  · rw [List.all_append, hcs, hds, Bool.and_self]

theorem isPlainChar_of_bounds {c : Char} (hlow : 48 ≤ c.toNat) (hhigh : c.toNat < 0x7F)
    (hslash : c.toNat ≠ 92) : isPlainChar c = true := by
  have hne {d : Char} (hd : c.toNat ≠ d.toNat) : c ≠ d := fun heq => hd (congrArg Char.toNat heq)
  have hquote : c ≠ '"' := hne (by rw [show '"'.toNat = 34 from rfl]; omega)
  simp only [isPlainChar, Bool.and_eq_true, decide_eq_true_eq, bne_iff_ne]
  exact ⟨⟨⟨by omega, hhigh⟩, hquote⟩, hne hslash⟩

theorem isPlainChar_of_isHexDigit {c : Char} (h : Text.isHexDigit c = true) :
    isPlainChar c = true := by
  unfold Text.isHexDigit Text.hexValue? at h
  dsimp only at h
  split at h
  · exact isPlainChar_of_bounds (by omega) (by omega) (by omega)
  · split at h
    · exact isPlainChar_of_bounds (by omega) (by omega) (by omega)
    · split at h
      · exact isPlainChar_of_bounds (by omega) (by omega) (by omega)
      · cases h

theorem all_toDigits (n : Nat) : (Nat.toDigits 10 n).all isPlainChar = true := by
  rw [List.all_eq_true]
  intro c hc
  obtain ⟨hlow, hhigh⟩ := Text.bounds_of_mem_toDigits hc
  exact isPlainChar_of_bounds hlow (by omega) (by omega)

theorem all_integer (n : Int) : (Text.integer n).toList.all isPlainChar = true := by
  rw [Text.toList_integer, List.all_append, all_toDigits, Bool.and_true]
  split <;> rfl

/-! ## Bytes -/

theorem isPlainText_writeMarked (bs : List UInt8) : IsPlainText (Hex.writeMarked bs) := by
  refine isPlainText_ofString ?_
  have hdigits : (Hex.write bs).all isPlainChar = true := by
    rw [List.all_eq_true]
    intro c hc
    exact isPlainChar_of_isHexDigit (Hex.isHexDigit_of_mem_write hc)
  rw [Hex.writeMarked, String.toList_ofList, List.all_cons, List.all_cons, hdigits]
  rfl

theorem isPlainText_address (a : Address) : IsPlainText a.text := by
  refine isPlainText_ofString ?_
  have hdigits : a.digits.all isPlainChar = true := by
    rw [List.all_eq_true]
    intro c hc
    have hvalue : Text.hexValue? c ∈ (Hex.write a.bytes).map Text.hexValue? := by
      rw [← a.map_hexValue?_digits]
      exact List.mem_map_of_mem hc
    obtain ⟨d, hd, hcd⟩ := List.mem_map.mp hvalue
    have hdigit := Hex.isHexDigit_of_mem_write hd
    rw [Text.isHexDigit, hcd] at hdigit
    exact isPlainChar_of_isHexDigit hdigit
  rw [Address.text, String.toList_ofList, List.all_cons, List.all_cons, hdigits]
  rfl

/-! ## Moments and networks -/

theorem all_twoDigits (n : Nat) : (Calendar.twoDigits n).toList.all isPlainChar = true := by
  have hdigits : (Text.natural n).toList.all isPlainChar = true := by
    rw [Text.toList_natural]
    exact all_toDigits n
  unfold Calendar.twoDigits
  split
  · rw [String.toList_append, List.all_append, hdigits]
    rfl
  · exact hdigits

theorem isPlainText_momentText {seconds : Int} {moment : String}
    (h : Calendar.momentText seconds = .ok moment) : IsPlainText moment := by
  have hmoment (m : Calendar.Moment) : m.text.toList.all isPlainChar = true := by
    have hmarks : ∀ mark ∈ ["-", " ", ":"], mark.toList.all isPlainChar = true := by decide
    simp only [List.forall_mem_cons, List.not_mem_nil, false_implies, implies_true, and_true]
      at hmarks
    obtain ⟨hdash, hblank, hcolon⟩ := hmarks
    simp only [Calendar.Moment.text, String.toList_append, List.all_append, all_integer,
      all_twoDigits, hdash, hblank, hcolon, Bool.and_self]
  unfold Calendar.momentText at h
  dsimp only at h
  split at h
  · cases h
  · split at h
    · cases h
    · split at h
      · cases h
      · obtain rfl := Except.ok.inj h
        exact isPlainText_ofString (hmoment _)

theorem isPlainText_networkName (id : Int) : IsPlainText (Network.name (.integer id)) := by
  unfold Network.name
  split
  · next n hn =>
    have hknown : ∀ n ∈ Network.known, n.2.toList.all isPlainChar = true := by decide
    exact isPlainText_ofString (hknown n (List.mem_of_find?_eq_some hn))
  · have hshown : IsPlainText (Value.integer id).shown := by
      rw [Value.shown, Value.literal]
      · exact isPlainText_ofString (all_integer id)
      all_goals
        intros
        contradiction
    have hbefore := isPlainText_ofString (s := "Unknown (chain ID ") (by decide)
    have hafter := isPlainText_ofString (s := ")") (by decide)
    exact (hbefore.append hshown).append hafter

end Json

end BatchFrontier
