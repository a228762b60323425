import BatchFrontier.Proofs.HexReading

/-!
# Texts that stand for bytes

Two digits stand for a byte, each in either case, and one mark may stand in front of all digits.
What the readers accept are exactly these texts. The bytes that a text stands for are determined:
in lower case its digits are the ones that are written for them.
-/

namespace BatchFrontier

namespace Text

/-- The value of a digit is the same in lower case. -/
theorem hexValue?_toLower (c : Char) : hexValue? c.toLower = hexValue? c := by
  unfold hexValue?
  rw [toNat_toLower]
  grind

/-- In lower case a digit is the one that is written for its value. -/
theorem toLower_of_hexValue? {c : Char} {n : Nat} (h : hexValue? c = some n) :
    n < 16 ∧ c.toLower = hexDigit n := by
  have hwritten : ∀ m < 16, (hexDigit m).toNat = if m < 10 then 48 + m else 87 + m := by decide
  unfold hexValue? at h
  have hn : n < 16 := by grind
  refine ⟨hn, ?_⟩
  rw [← Char.toNat_inj, toNat_toLower, hwritten n hn]
  grind

/-- Whether a character is a digit does not depend on its case. -/
theorem isHexDigit_toLower (c : Char) : isHexDigit c.toLower = isHexDigit c := by
  rw [isHexDigit, isHexDigit, hexValue?_toLower]

/-- That a text consists of digits. No half of a character is one. -/
def IsHex (t : Text) : Prop := ∀ c ∈ t.codes, c.satisfies isHexDigit = true

/-- A code is a digit exactly if its character is: neither a half nor the replacement character
is one. -/
theorem satisfies_isHexDigit (c : Code) : c.satisfies isHexDigit = isHexDigit c.toChar := by
  cases c <;> rfl

/-- A text consists of digits exactly if its characters do. -/
theorem isHex_iff {t : Text} : IsHex t ↔ ∀ c ∈ t.chars, isHexDigit c = true := by
  simp [IsHex, chars, satisfies_isHexDigit]

/-- A text of digits is the text of its characters. -/
theorem IsHex.ofChars_chars {t : Text} (h : IsHex t) : ofChars t.chars = t := by
  apply Text.ofChars_chars
  intro hreplaced
  cases isHex_iff.mp h _ hreplaced

end Text

namespace Hex

open BatchFrontier.Text

/-- The digits of a byte are those that are written for it. -/
theorem ofByte_of_byte? {high low : Char} {b : UInt8} (h : byte? high low = some b) :
    ofByte b = [high.toLower, low.toLower] := by
  simp only [byte?, Option.bind_eq_bind, Option.bind_eq_some_iff, Option.pure_def,
    Option.some.injEq] at h
  obtain ⟨m, hm, n, hn, rfl⟩ := h
  obtain ⟨hmlt, hhigh⟩ := toLower_of_hexValue? hm
  obtain ⟨hnlt, hlow⟩ := toLower_of_hexValue? hn
  have hnumber : (UInt8.ofNat (16 * m + n)).toNat = 16 * m + n := by
    rw [UInt8.toNat_ofNat']
    omega
  have hdigit : hexDigit (16 * m + n) = hexDigit n := by
    have hmod : (16 * m + n) % 16 = n % 16 := by omega
    rw [hexDigit, hexDigit, hmod]
  have hquotient : (16 * m + n) / 16 = m := by omega
  simp only [ofByte, hnumber, hexOfWidth, hquotient, hdigit, hhigh, hlow, List.nil_append,
    List.cons_append]

/-- Characters are read as bytes exactly if in lower case they are what is written for the bytes. -/
theorem read?_eq_some_iff {cs : List Char} {bs : List UInt8} :
    read? cs = some bs ↔ cs.map Char.toLower = write bs := by
  constructor
  · intro h
    induction cs using read?.induct generalizing bs with
    | case1 =>
      obtain rfl : [] = bs := by simpa [read?] using h
      rfl
    | case2 c => simp [read?] at h
    | case3 high low rest ih =>
      simp only [read?, Option.bind_eq_bind, Option.bind_eq_some_iff, Option.pure_def,
        Option.some.injEq] at h
      obtain ⟨b, hb, bs', hrest, rfl⟩ := h
      rw [write_cons, ofByte_of_byte? hb, ← ih hrest]
      rfl
  · intro h
    have hvalues : cs.map hexValue? = (write bs).map hexValue? := by
      simp only [← h, List.map_map, Function.comp_def, hexValue?_toLower]
    rw [read?_congr hvalues, read?_write]

/-- What is written is in lower case. -/
theorem map_toLower_write (bs : List UInt8) : (write bs).map Char.toLower = write bs :=
  read?_eq_some_iff.mp (read?_write bs)

/-- What is read as bytes are digits, two for each byte. -/
theorem digits_of_read? {cs : List Char} {bs : List UInt8} (h : read? cs = some bs) :
    cs.length = 2 * bs.length ∧ ∀ c ∈ cs, isHexDigit c = true := by
  have hlower := read?_eq_some_iff.mp h
  constructor
  · rw [← length_write, ← hlower, List.length_map]
  · intro c hc
    have hwritten : c.toLower ∈ write bs := by
      rw [← hlower]
      exact List.mem_map_of_mem hc
    rw [← isHexDigit_toLower]
    exact isHexDigit_of_mem_write hwritten

/-- Digits in pairs are read as some bytes. -/
theorem exists_read? {cs : List Char} (hpairs : cs.length % 2 = 0)
    (hdigits : ∀ c ∈ cs, isHexDigit c = true) : ∃ bs, read? cs = some bs := by
  induction cs using read?.induct with
  | case1 => exact ⟨[], rfl⟩
  | case2 c => simp at hpairs
  | case3 high low rest ih =>
    obtain ⟨hhigh, hlow, hrest⟩ : isHexDigit high = true ∧ isHexDigit low = true ∧
        ∀ c ∈ rest, isHexDigit c = true := by simpa using hdigits
    obtain ⟨m, hm⟩ := Option.isSome_iff_exists.mp hhigh
    obtain ⟨n, hn⟩ := Option.isSome_iff_exists.mp hlow
    have hpairs' : rest.length % 2 = 0 := by
      simp only [List.length_cons] at hpairs
      omega
    obtain ⟨bs, hbs⟩ := ih hpairs' hrest
    exact ⟨UInt8.ofNat (16 * m + n) :: bs, by simp [read?, byte?, hm, hn, hbs]⟩

/-! ## Marks -/

/-- That a text stands for bytes: after one mark or none, two digits for each byte, in either
case. -/
def StandsFor (t : Text) (bs : List UInt8) : Prop :=
  ∃ cs, cs.map Char.toLower = write bs ∧
    (t = ofChars cs ∨ t = ("0x" : Text) ++ ofChars cs ∨ t = ("0X" : Text) ++ ofChars cs)

/-- A text has its mark in front, if it has one. -/
theorem eq_or_eq_append_dropTextMark (t : Text) : t = dropTextMark t ∨
    t = ("0x" : Text) ++ dropTextMark t ∨ t = ("0X" : Text) ++ dropTextMark t := by
  obtain ⟨codes⟩ := t
  unfold dropTextMark
  split
  · next rest hcodes => exact .inr (.inl (congrArg Text.mk hcodes))
  · next rest hcodes => exact .inr (.inr (congrArg Text.mk hcodes))
  · exact .inl rfl

/-- Digits do not begin with a mark. -/
theorem dropTextMark_of_isHex {t : Text} (h : IsHex t) : dropTextMark t = t := by
  have hmark : ∀ c ∈ t.codes, c ≠ .char 'x' ∧ c ≠ .char 'X' := by
    intro c hc
    have hdigit := h c hc
    constructor
    · rintro rfl
      cases hdigit
    · rintro rfl
      cases hdigit
  obtain ⟨codes⟩ := t
  unfold dropTextMark
  split
  · next rest hcodes =>
    obtain rfl : codes = _ := hcodes
    simp at hmark
  · next rest hcodes =>
    obtain rfl : codes = _ := hcodes
    simp at hmark
  · rfl

theorem dropTextMark_append (t : Text) :
    dropTextMark (("0x" : Text) ++ t) = t ∧ dropTextMark (("0X" : Text) ++ t) = t :=
  ⟨rfl, rfl⟩

/-- A text stands for bytes exactly if its digits are read as them. -/
theorem standsFor_iff {t : Text} {bs : List UInt8} :
    StandsFor t bs ↔ read? (dropTextMark t).chars = some bs := by
  constructor
  · rintro ⟨cs, hcs, ht⟩
    have hread := read?_eq_some_iff.mpr hcs
    have hhex : IsHex (ofChars cs) :=
      isHex_iff.mpr (by rw [chars_ofChars]; exact (digits_of_read? hread).2)
    have hbody : dropTextMark t = ofChars cs := by
      rcases ht with rfl | rfl | rfl
      · exact dropTextMark_of_isHex hhex
      · exact (dropTextMark_append _).1
      · exact (dropTextMark_append _).2
    rw [hbody, chars_ofChars, hread]
  · intro h
    have hbody := (isHex_iff.mpr (digits_of_read? h).2).ofChars_chars
    refine ⟨(dropTextMark t).chars, read?_eq_some_iff.mp h, ?_⟩
    rw [hbody]
    exact eq_or_eq_append_dropTextMark t

/-- What is written with a mark stands for the bytes. -/
theorem standsFor_writeMarked (bs : List UInt8) : StandsFor (writeMarked bs) bs := by
  refine ⟨write bs, map_toLower_write bs, .inr (.inl ?_)⟩
  rw [writeMarked, Text.ofString, String.toList_ofList]
  rfl

/-- A text stands for some bytes exactly if it has digits in pairs and nothing else after its
mark. -/
theorem exists_standsFor_iff {t : Text} : (∃ bs, StandsFor t bs) ↔
    (dropTextMark t).length % 2 = 0 ∧ IsHex (dropTextMark t) := by
  simp only [standsFor_iff, isHex_iff, ← Text.length_chars]
  constructor
  · rintro ⟨bs, hbs⟩
    obtain ⟨hlength, hdigits⟩ := digits_of_read? hbs
    exact ⟨by omega, hdigits⟩
  · rintro ⟨hpairs, hdigits⟩
    exact exists_read? hpairs hdigits

end Hex

namespace Value

/-- A text in ASCII has no run of codes outside it. -/
theorem foreignRun?_eq_none {cs : List Code} (h : ∀ c ∈ cs, c.toNat < 128) :
    foreignRun? cs = none := by
  have hplain : cs.takeWhile (fun c => !isForeign c) = cs := by
    rw [List.takeWhile_eq_self_iff]
    intro c hc
    have := h c hc
    simp only [isForeign, Bool.not_eq_true', decide_eq_false_iff_not]
    omega
  simp only [foreignRun?, hplain, List.drop_length]

/-- A text is converted to the bytes that it stands for. -/
theorem bytesOfText_of_standsFor {t : Text} {bs : List UInt8} (h : Hex.StandsFor t bs) :
    bytesOfText t = .ok bs := by
  rw [Hex.standsFor_iff] at h
  obtain ⟨hlength, hdigits⟩ := Hex.digits_of_read? h
  rw [Text.length_chars] at hlength
  have heven : ¬ t.length % 2 = 1 := by
    have hmark : t.length = (Hex.dropTextMark t).length ∨
        t.length = 2 + (Hex.dropTextMark t).length := by
      rcases Hex.eq_or_eq_append_dropTextMark t with ht | ht | ht
      · exact .inl (congrArg Text.length ht)
      · exact .inr ((congrArg Text.length ht).trans (Text.length_append _ _))
      · exact .inr ((congrArg Text.length ht).trans (Text.length_append _ _))
    omega
  have hpaired : pairedDigits t = (Hex.dropTextMark t).codes := by
    simp only [pairedDigits, if_neg heven]
  have hascii : foreignRun? (Hex.dropTextMark t).codes = none := by
    apply foreignRun?_eq_none
    intro c hc
    have hdigit := Text.isHex_iff.mpr hdigits c hc
    cases c with
    | char c => exact Text.toNat_lt_of_isHexDigit hdigit
    | half n => cases hdigit
  have hread : Hex.read? ((Hex.dropTextMark t).codes.map Code.toChar) = some bs := h
  simp only [bytesOfText, hpaired, hascii, hread]

/-- Bytes written with a mark are read back. -/
theorem bytesOfText_writeMarked (bs : List UInt8) :
    bytesOfText (Hex.writeMarked bs) = .ok bs :=
  bytesOfText_of_standsFor (Hex.standsFor_writeMarked bs)

end Value

end BatchFrontier
