import BatchFrontier.Proofs.HexSpelling
import BatchFrontier.Proofs.TrimmedTexts
import BatchFrontier.Sources

/-!
# The forms of an address

A text spells an address by forty digits in either case, after one mark or none, with blanks around
them or none. All spellings of an address are normalised to its text. There the case of a letter is
told by the digest of the digits in lower case, so the case in which the address was spelled is
forgotten, and what is left tells the bytes: one text for each address, which spells it again.
-/

namespace BatchFrontier

namespace Text

/-- No digit is a blank. -/
theorem isBlank_of_isHexDigit {c : Char} (h : isHexDigit c = true) : isBlank c = false := by
  have hdigit : 48 ≤ c.toNat ∧ c.toNat ≤ 102 := by
    simp only [isHexDigit, hexValue?] at h
    grind
  rw [Bool.eq_false_iff]
  intro hblank
  obtain ⟨r, hr, hlow, hhigh⟩ := CharClass.holds_iff.mp hblank
  have hranges : ∀ r ∈ blanks.ranges, r.2 < 48 ∨ 102 < r.1 := by decide
  have := hranges r hr
  omega

/-- A code is a blank exactly if its character is, for the replacement character is none. -/
theorem isBlank_toChar (c : Code) : isBlank c.toChar = c.satisfies isBlank := by
  cases c with
  | char c => rfl
  | half n =>
    have hreplaced : isBlank '\uFFFD' = false := by decide
    exact hreplaced

/-- A text without the blanks at its ends. -/
def trimmed (t : Text) : Text := ⟨trimWhere (Code.satisfies isBlank) t.codes⟩

/-- The blanks of a text are those of its characters. -/
theorem chars_trimmed (t : Text) : t.trimmed.chars = trim t.chars := by
  have hblank : isBlank ∘ Code.toChar = Code.satisfies isBlank := funext isBlank_toChar
  unfold trimmed chars trim trimWhere
  simp only [List.dropWhile_map, hblank, ← List.map_reverse]

end Text

namespace Address

open BatchFrontier.Text

/-! ## Spellings -/

/-- That a text spells an address by some digits: there are forty of them after one mark or none,
and nothing but blanks around. -/
structure Spells (t : Text) (cs : List Char) : Prop where
  count : cs.length = 40
  digits : ∀ c ∈ cs, isHexDigit c = true
  around : ∃ front core back : Text, t = front ++ core ++ back ∧
    (core = ofChars cs ∨ core = ("0x" : Text) ++ ofChars cs ∨ core = ("0X" : Text) ++ ofChars cs) ∧
    (∀ c ∈ front.codes, c.satisfies isBlank = true) ∧
    ∀ c ∈ back.codes, c.satisfies isBlank = true

/-- That a text spells the address with some bytes: its digits are those of the bytes, each in one
case or the other. -/
def Denotes (t : Text) (bs : List UInt8) : Prop :=
  ∃ cs, Spells t cs ∧ cs.map Char.toLower = Hex.write bs

/-- Neither a mark nor a digit is a blank. -/
theorem isBlank_of_mem_core {core : Text} {cs : List Char}
    (hcore : core = ofChars cs ∨ core = ("0x" : Text) ++ ofChars cs ∨
      core = ("0X" : Text) ++ ofChars cs)
    (hdigits : ∀ c ∈ cs, isHexDigit c = true) {c : Code} (hc : c ∈ core.codes) :
    c.satisfies isBlank = false := by
  have hbody : ∀ c ∈ (ofChars cs).codes, c.satisfies isBlank = false := by
    intro c hc
    obtain ⟨d, hd, rfl⟩ := List.mem_map.mp hc
    exact isBlank_of_isHexDigit (hdigits d hd)
  have hlower : ∀ c ∈ ("0x" : Text).codes, c.satisfies isBlank = false := by decide
  have hupper : ∀ c ∈ ("0X" : Text).codes, c.satisfies isBlank = false := by decide
  rcases hcore with rfl | rfl | rfl
  · exact hbody c hc
  · exact (List.mem_append.mp hc).elim (hlower c) (hbody c)
  · exact (List.mem_append.mp hc).elim (hupper c) (hbody c)

/-- A text spells an address with some bytes exactly if it stands for them without its blanks. -/
theorem denotes_iff {t : Text} {bs : List UInt8} :
    Denotes t bs ↔ bs.length = 20 ∧ Hex.StandsFor t.trimmed bs := by
  constructor
  · rintro ⟨cs, hspells, hplain⟩
    obtain ⟨front, core, back, ht, hcore, hfront, hback⟩ := hspells.around
    have hpiece : t.codes = front.codes ++ (core.codes ++ back.codes) := by
      rw [ht, codes_append, codes_append, List.append_assoc]
    have hcodes : core.codes = trimWhere (Code.satisfies isBlank) t.codes :=
      IsTrimmed.eq_trimWhere ⟨⟨front.codes, back.codes, hpiece, hfront, hback⟩,
        fun c hc => isBlank_of_mem_core hcore hspells.digits (List.mem_of_mem_head? hc),
        fun c hc => isBlank_of_mem_core hcore hspells.digits (List.mem_of_mem_getLast? hc)⟩
    have htrimmed : t.trimmed = core := by rw [trimmed, ← hcodes]
    have hlength := congrArg List.length hplain
    rw [List.length_map, hspells.count, Hex.length_write] at hlength
    exact ⟨by omega, cs, hplain, by rwa [htrimmed]⟩
  · rintro ⟨hsize, cs, hplain, hcore⟩
    obtain ⟨hcount, hdigits⟩ := Hex.digits_of_read? (Hex.read?_eq_some_iff.mpr hplain)
    obtain ⟨front, back, hpiece, hfront, hback⟩ :=
      (isTrimmed_trimWhere (p := Code.satisfies isBlank) t.codes).piece
    have ht : t = (⟨front⟩ : Text) ++ t.trimmed ++ ⟨back⟩ := by
      have hcodes : t.codes = front ++ t.trimmed.codes ++ back := by
        rw [List.append_assoc]
        exact hpiece
      exact congrArg Text.mk hcodes
    exact ⟨cs, ⟨by omega, hdigits, ⟨front⟩, t.trimmed, ⟨back⟩, ht, hcore, hfront, hback⟩, hplain⟩

/-- A text spells one address at most. -/
theorem Denotes.unique {t : Text} {bs bs' : List UInt8} (h : Denotes t bs) (h' : Denotes t bs') :
    bs = bs' := by
  have hread := Hex.standsFor_iff.mp (denotes_iff.mp h).2
  have hread' := Hex.standsFor_iff.mp (denotes_iff.mp h').2
  exact Option.some.inj (hread.symm.trans hread')

/-- What spells an address by some digits spells the one whose digits they are. -/
theorem Spells.exists_denotes {t : Text} {cs : List Char} (h : Spells t cs) :
    ∃ a : Address, Denotes t a.bytes ∧ cs.map Char.toLower = Hex.write a.bytes := by
  have hpairs : cs.length % 2 = 0 := by rw [h.count]
  obtain ⟨bs, hread⟩ := Hex.exists_read? hpairs h.digits
  have hplain := Hex.read?_eq_some_iff.mp hread
  have hdenotes : Denotes t bs := ⟨cs, h, hplain⟩
  exact ⟨⟨bs, (denotes_iff.mp hdenotes).1⟩, hdenotes, hplain⟩

/-- Bytes are those of an address if there are as many as it has. -/
theorem ofBytes?_eq_some_iff {bs : List UInt8} {a : Address} :
    ofBytes? bs = some a ↔ bs = a.bytes := by
  unfold ofBytes?
  constructor
  · intro h
    obtain ⟨hsize, ha⟩ := Option.dite_none_right_eq_some.mp h
    rw [← Option.some.inj ha]
  · rintro rfl
    rw [dif_pos a.size]

/-- A text is read as the address that it spells. -/
theorem ofValue_text_eq_ok_iff {t : Text} {a : Address} :
    ofValue (.text t) = .ok a ↔ Denotes t a.bytes := by
  have hread : ofValue? (.text t) =
      (Hex.read? (Hex.dropTextMark t.trimmed).chars).bind ofBytes? := by
    rw [ofValue?, ofDigits?, ← chars_trimmed, Hex.chars_dropTextMark]
  have hok : ofValue (.text t) = .ok a ↔ ofValue? (.text t) = some a := by
    unfold ofValue
    cases ofValue? (.text t) <;> simp
  rw [hok, hread, Option.bind_eq_some_iff, denotes_iff, Hex.standsFor_iff]
  constructor
  · rintro ⟨bs, hbs, ha⟩
    obtain rfl := ofBytes?_eq_some_iff.mp ha
    exact ⟨a.size, hbs⟩
  · rintro ⟨-, hbs⟩
    exact ⟨a.bytes, hbs, ofBytes?_eq_some_iff.mpr rfl⟩

/-- A text that spells no address is refused. -/
theorem ofValue_text_of_not_spells {t : Text} (h : ∀ cs, ¬ Spells t cs) :
    ofValue (.text t) = .error (.badAddress (.text t)) := by
  cases hread : ofValue? (.text t) with
  | none =>
    rw [ofValue, hread]
    rfl
  | some a =>
    have hok : ofValue (.text t) = .ok a := by rw [ofValue, hread]
    obtain ⟨cs, hspells, -⟩ := ofValue_text_eq_ok_iff.mp hok
    exact absurd hspells (h cs)

/-! ## The case of letters -/

/-- The half-byte of some bytes at an index. -/
def nibble (bs : List UInt8) (i : Nat) : Nat :=
  let b := (bs.getD (i / 2) 0).toNat
  if i % 2 = 0 then b / 16 else b % 16

/-- That digits are those of an address in their checked case: they are the same up to case, and a
letter is upper case exactly if the half-byte at its index is at least eight. The half-bytes are
those of the digest of the digits in lower case. -/
structure IsChecked (cs ds : List Char) : Prop where
  plain : ds.map Char.toLower = cs.map Char.toLower
  letters : ∀ i c, ds[i]? = some c → c.isAlpha = true →
    (c.isUpper = true ↔ 8 ≤ nibble (Keccak.digest (Utf8.encode (cs.map Char.toLower))) i)

/-- The half-bytes of some bytes are listed in their order. -/
theorem getElem?_halves {bs : List UInt8} {i : Nat} (h : i < 2 * bs.length) :
    (halves bs)[i]? = some (nibble bs i) := by
  induction bs generalizing i with
  | nil => simp at h
  | cons b bs ih =>
    have hcons : halves (b :: bs) = b.toNat / 16 :: b.toNat % 16 :: halves bs := rfl
    rw [hcons]
    match i with
    | 0 => rfl
    | 1 => rfl
    | i + 2 =>
      have hrest : i < 2 * bs.length := by
        rw [List.length_cons] at h
        omega
      have hhalf : (i + 2) / 2 = i / 2 + 1 := by omega
      have hsame : nibble (b :: bs) (i + 2) = nibble bs i := by
        simp only [nibble, hhalf, List.getD_cons_succ, Nat.add_mod_right]
      rw [List.getElem?_cons_succ, List.getElem?_cons_succ, ih hrest, hsame]

/-- The letters in upper case by their numbers. -/
theorem isUpper_iff (c : Char) : c.isUpper = true ↔ 65 ≤ c.toNat ∧ c.toNat ≤ 90 := by
  change decide ('A'.val ≤ c.val ∧ c.val ≤ 'Z'.val) = true ↔ _
  rw [decide_eq_true_iff, UInt32.le_iff_toNat_le, UInt32.le_iff_toNat_le]
  rfl

/-- The letters by their numbers. -/
theorem isAlpha_iff (c : Char) : c.isAlpha = true ↔
    (65 ≤ c.toNat ∧ c.toNat ≤ 90) ∨ 97 ≤ c.toNat ∧ c.toNat ≤ 122 := by
  change (c.isUpper || decide ('a'.val ≤ c.val) && decide (c.val ≤ 'z'.val)) = true ↔ _
  rw [Bool.or_eq_true, isUpper_iff, Bool.and_eq_true, decide_eq_true_iff, decide_eq_true_iff,
    UInt32.le_iff_toNat_le, UInt32.le_iff_toNat_le]
  rfl

/-- A lower-case letter in its checked case is upper case exactly if its half-byte is at least
eight. -/
theorem isUpper_checked_iff {c : Char} (hc : 97 ≤ c.toNat ∧ c.toNat ≤ 102) (half : Nat) :
    (checked c half).isUpper = true ↔ 8 ≤ half := by
  unfold checked
  rw [isUpper_iff]
  split
  · rw [toNat_toUpper]
    split <;> omega
  · omega

/-- What is a letter in its checked case is a letter in lower case. -/
theorem bounds_of_isAlpha_checked {c : Char} (hdigit : isHexDigit c = true) (hlower : c.toLower = c)
    {half : Nat} (h : (checked c half).isAlpha = true) : 97 ≤ c.toNat ∧ c.toNat ≤ 102 := by
  have hplain := toNat_toLower c
  rw [hlower] at hplain
  by_cases hletter : 97 ≤ c.toNat
  · simp only [isHexDigit, hexValue?] at hdigit
    grind
  · have hsmall : c.toNat ≤ 57 := by
      simp only [isHexDigit, hexValue?] at hdigit
      grind
    rw [checked_of_lt (by omega), isAlpha_iff] at h
    omega

/-- The digits of an address are in their checked case. -/
theorem isChecked_digits {a : Address} {cs : List Char}
    (h : cs.map Char.toLower = Hex.write a.bytes) : IsChecked cs a.digits where
  plain := by rw [h, Hex.read?_eq_some_iff.mp a.read?_digits]
  letters i c hc halpha := by
    obtain ⟨d, half, hd, hhalf, rfl⟩ := List.getElem?_zipWith_eq_some.mp hc
    have hmem := List.mem_of_getElem? hd
    have hlower : d.toLower = d := by
      have hall := List.map_inj_left.mp ((Hex.map_toLower_write a.bytes).trans (List.map_id _).symm)
      exact hall d hmem
    have hi : i < 40 := by
      obtain ⟨hi, -⟩ := List.getElem?_eq_some_iff.mp hd
      rwa [Hex.length_write, a.size] at hi
    rw [getElem?_halves (by rw [Keccak.length_digest]; omega)] at hhalf
    rw [h, isUpper_checked_iff (bounds_of_isAlpha_checked (Hex.isHexDigit_of_mem_write hmem) hlower
      halpha), Option.some.inj hhalf]

/-! ## Normal forms -/

/-- The text that a text is normalised to. -/
def normalised (t : Text) : Except Fault Text := (ofValue (.text t)).map fun a => a.text

/-- The text of an address has the mark and the digits in their checked case. -/
theorem text_eq (a : Address) : (a.text : Text) = ("0x" : Text) ++ ofChars a.digits := by
  rw [text, ofString, String.toList_ofList]
  rfl

/-- The text of an address spells it. -/
theorem denotes_text (a : Address) : Denotes a.text a.bytes := by
  obtain ⟨hcount, hdigits⟩ := Hex.digits_of_read? a.read?_digits
  refine ⟨a.digits, ⟨by rw [hcount, a.size], hdigits, "", a.text, "", ?_, ?_, ?_, ?_⟩,
    Hex.read?_eq_some_iff.mp a.read?_digits⟩
  · have hcodes : (a.text : Text).codes = [] ++ (a.text : Text).codes ++ [] := by simp
    exact congrArg Text.mk hcodes
  · exact .inr (.inl a.text_eq)
  · exact fun c hc => absurd hc List.not_mem_nil
  · exact fun c hc => absurd hc List.not_mem_nil

/-- A text is normalised to the text of the address that it spells. -/
theorem normalised_eq_ok_iff {t s : Text} :
    normalised t = .ok s ↔ ∃ a : Address, Denotes t a.bytes ∧ s = a.text := by
  unfold normalised
  constructor
  · intro h
    cases hread : ofValue (.text t) with
    | error f =>
      rw [hread] at h
      cases h
    | ok a =>
      rw [hread] at h
      exact ⟨a, ofValue_text_eq_ok_iff.mp hread, (Except.ok.inj h).symm⟩
  · rintro ⟨a, ha, rfl⟩
    rw [ofValue_text_eq_ok_iff.mpr ha]
    rfl

/-- Addresses with the same bytes are the same. -/
theorem eq_of_bytes {a b : Address} (h : a.bytes = b.bytes) : a = b := by
  obtain ⟨bytes, size⟩ := a
  obtain rfl : bytes = b.bytes := h
  rfl

/-- A text tells its address. -/
theorem text_inj {a b : Address} (h : (a.text : Text) = b.text) : a = b := by
  have ha := denotes_text a
  rw [h] at ha
  exact eq_of_bytes (ha.unique (denotes_text b))

/-- How the texts of addresses, and of the addresses of two contracts, are normalised. -/
structure IsCanonical : Prop where
  /-- Exactly the texts that spell an address are accepted. -/
  accepted : ∀ t, (∃ s, normalised t = .ok s) ↔ ∃ cs, Spells t cs
  /-- They are normalised to the mark and their digits in the checked case. -/
  checked : ∀ t cs, Spells t cs →
    ∃ ds, normalised t = .ok (("0x" : Text) ++ ofChars ds) ∧ IsChecked cs ds
  /-- What is normalised stays as it is. -/
  stable : ∀ t s, normalised t = .ok s → normalised s = .ok s
  /-- Two texts are normalised to the same one exactly if they spell the same bytes. -/
  same : ∀ t u s r, normalised t = .ok s → normalised u = .ok r →
    (s = r ↔ ∃ bs, Denotes t bs ∧ Denotes u bs)
  /-- What is normalised spells just one sequence of bytes, of which there are twenty. -/
  bytes : ∀ t s, normalised t = .ok s → ∃! bs, bs.length = 20 ∧ Denotes s bs
  /-- Any twenty bytes are spelled by just one text among those that are normalised. -/
  text : ∀ bs, bs.length = 20 → ∃! s, (∃ t, normalised t = .ok s) ∧ Denotes s bs
  /-- Any other text is refused as it stands, in quotation marks. -/
  refused : ∀ t, (∀ cs, ¬ Spells t cs) → normalised t = .error (.badAddress (.text t)) ∧
    (Fault.badAddress (.text t)).message = "Invalid address: " ++ t.quote
  /-- All spellings of the addresses of two contracts lead to the same contracts. -/
  contracts : ∀ m l (a b : Address), Denotes m a.bytes → Denotes l b.bytes →
    Contracts.ofValues (.text m) (.text l) = .ok ⟨a, b⟩
  /-- If the address of the manager is none, it is refused, whatever the other one is. -/
  manager : ∀ m l, (∀ cs, ¬ Spells m cs) →
    Contracts.ofValues (.text m) l = .error (.badAddress (.text m))
  /-- If only the other one is none, that is refused. -/
  legacy : ∀ m l cs, Spells m cs → (∀ cs, ¬ Spells l cs) →
    Contracts.ofValues (.text m) (.text l) = .error (.badAddress (.text l))

/-- Each address has one text, and all its spellings are normalised to that. -/
theorem normalised_isCanonical : IsCanonical where
  accepted t := by
    constructor
    · rintro ⟨s, hs⟩
      obtain ⟨a, ⟨cs, hspells, -⟩, -⟩ := normalised_eq_ok_iff.mp hs
      exact ⟨cs, hspells⟩
    · rintro ⟨cs, hspells⟩
      obtain ⟨a, ha, -⟩ := hspells.exists_denotes
      exact ⟨a.text, normalised_eq_ok_iff.mpr ⟨a, ha, rfl⟩⟩
  checked t cs hspells := by
    obtain ⟨a, ha, hplain⟩ := hspells.exists_denotes
    exact ⟨a.digits, normalised_eq_ok_iff.mpr ⟨a, ha, a.text_eq.symm⟩, isChecked_digits hplain⟩
  stable t s hs := by
    obtain ⟨a, -, rfl⟩ := normalised_eq_ok_iff.mp hs
    exact normalised_eq_ok_iff.mpr ⟨a, denotes_text a, rfl⟩
  same t u s r hs hr := by
    obtain ⟨a, ha, rfl⟩ := normalised_eq_ok_iff.mp hs
    obtain ⟨b, hb, rfl⟩ := normalised_eq_ok_iff.mp hr
    constructor
    · intro hsame
      obtain rfl := text_inj hsame
      exact ⟨a.bytes, ha, hb⟩
    · rintro ⟨bs, ht, hu⟩
      rw [eq_of_bytes ((ha.unique ht).trans (hu.unique hb))]
  bytes t s hs := by
    obtain ⟨a, -, rfl⟩ := normalised_eq_ok_iff.mp hs
    exact ⟨a.bytes, ⟨a.size, denotes_text a⟩, fun bs hbs => hbs.2.unique (denotes_text a)⟩
  text bs hsize := by
    refine ⟨(⟨bs, hsize⟩ : Address).text, ⟨⟨_, normalised_eq_ok_iff.mpr
      ⟨⟨bs, hsize⟩, denotes_text _, rfl⟩⟩, denotes_text ⟨bs, hsize⟩⟩, ?_⟩
    rintro s ⟨⟨t, ht⟩, hs⟩
    obtain ⟨a, -, rfl⟩ := normalised_eq_ok_iff.mp ht
    obtain rfl := hs.unique (denotes_text a)
    rfl
  refused t hnone := by
    rw [normalised, ofValue_text_of_not_spells hnone]
    exact ⟨rfl, rfl⟩
  contracts m l a b hm hl := by
    rw [Contracts.ofValues, ofValue_text_eq_ok_iff.mpr hm, ofValue_text_eq_ok_iff.mpr hl]
    rfl
  manager m l hm := by
    rw [Contracts.ofValues, ofValue_text_of_not_spells hm]
    rfl
  legacy m l cs hm hl := by
    obtain ⟨a, ha, -⟩ := hm.exists_denotes
    rw [Contracts.ofValues, ofValue_text_eq_ok_iff.mpr ha, ofValue_text_of_not_spells hl]
    rfl

end Address

end BatchFrontier
