import BatchFrontier.Bytes.Utf8

/-!
# Reading UTF-8

Reading takes back what writing produced, and it accepts nothing else: bytes are read as a text
exactly if they are that text's bytes. The bytes of one character are a sequence of one to four, and
reading cuts the bytes into sequences.
-/

namespace BatchFrontier.Utf8

/-! ## Sequences -/

/-- A sequence of bytes with the character that it stands for. -/
inductive Sequence : List UInt8 → Char → Prop where
  | one {a : UInt8} (ha : a.toNat < 0x80) : Sequence [a] (Char.ofNat a.toNat)
  | two {a b : UInt8} (ha : 0xC2 ≤ a.toNat) (ha' : a.toNat < 0xE0) (hb : continues b = true) :
    Sequence [a, b] (Char.ofNat (64 * (a.toNat - 0xC0) + bits b))
  | three {a b c : UInt8} (ha : 0xE0 ≤ a.toNat) (ha' : a.toNat < 0xF0) (hb : seconds a b = true)
    (hc : continues c = true) :
    Sequence [a, b, c] (Char.ofNat (4096 * (a.toNat - 0xE0) + 64 * bits b + bits c))
  | four {a b c d : UInt8} (ha : 0xF0 ≤ a.toNat) (ha' : a.toNat < 0xF5)
    (hb : seconds a b = true) (hc : continues c = true) (hd : continues d = true) :
    Sequence [a, b, c, d]
      (Char.ofNat (262144 * (a.toNat - 0xF0) + 4096 * bits b + 64 * bits c + bits d))

theorem continues_iff {b : UInt8} : continues b = true ↔ 0x80 ≤ b.toNat ∧ b.toNat ≤ 0xBF := by
  simp [continues, within]

/-- After most first bytes any continuing byte may stand second. The exceptions keep out the codes
with a shorter form, those of halves and those beyond the last character. -/
theorem seconds_iff {a b : UInt8} : seconds a b = true ↔
    (0x80 ≤ b.toNat ∧ b.toNat ≤ 0xBF) ∧ (a.toNat = 0xE0 → 0xA0 ≤ b.toNat) ∧
      (a.toNat = 0xED → b.toNat ≤ 0x9F) ∧ (a.toNat = 0xF0 → 0x90 ≤ b.toNat) ∧
      (a.toNat = 0xF4 → b.toNat ≤ 0x8F) := by
  unfold seconds secondRange
  split
  case h_5 hE0 hED hF0 hF4 =>
    simp only [within, Bool.and_eq_true, decide_eq_true_eq]
    exact ⟨fun h => ⟨h, fun ha => (hE0 ha).elim, fun ha => (hED ha).elim,
      fun ha => (hF0 ha).elim, fun ha => (hF4 ha).elim⟩, And.left⟩
  all_goals
    simp only [within, Bool.and_eq_true, decide_eq_true_eq]
    omega

theorem bits_of_continues {b : UInt8} (h : 0x80 ≤ b.toNat ∧ b.toNat ≤ 0xBF) :
    bits b = b.toNat - 0x80 := by
  unfold bits
  omega

/-- The byte that six bits are written as. -/
theorem toNat_trail (n : Nat) : (UInt8.ofNat (n % 64 + 128)).toNat = n % 64 + 128 := by
  rw [UInt8.toNat_ofNat']
  omega

theorem continues_trail (n : Nat) : continues (UInt8.ofNat (n % 64 + 128)) = true := by
  rw [continues_iff, toNat_trail]
  omega

theorem bits_trail (n : Nat) : bits (UInt8.ofNat (n % 64 + 128)) = n % 64 := by
  rw [bits, toNat_trail]
  omega

theorem val_ofNat {n : Nat} (h : n < 0xD800 ∨ 0xDFFF < n ∧ n < 0x110000) :
    (Char.ofNat n).val.toNat = n := Code.toNat_ofNat_of_isValidChar h

/-- A sequence is what its character is written as. -/
theorem Sequence.encode_eq {bs : List UInt8} {c : Char} (h : Sequence bs c) :
    String.utf8EncodeChar c = bs := by
  unfold String.utf8EncodeChar
  cases h with
  | @one a ha =>
    rw [val_ofNat (by omega)]
    simp only [UInt8.ofNat_toNat]
    rw [if_pos (by omega)]
  | @two a b ha ha' hb =>
    rw [continues_iff] at hb
    rw [bits_of_continues hb, val_ofNat (by omega)]
    simp only
    rw [if_neg (by omega), if_pos (by omega)]
    simp only [List.cons.injEq, ← UInt8.toNat_inj, UInt8.toNat_ofNat', and_true]
    omega
  | @three a b c ha ha' hb hc =>
    rw [continues_iff] at hc
    rw [seconds_iff] at hb
    rw [bits_of_continues hb.1, bits_of_continues hc, val_ofNat (by omega)]
    simp only
    rw [if_neg (by omega), if_neg (by omega), if_pos (by omega)]
    simp only [List.cons.injEq, ← UInt8.toNat_inj, UInt8.toNat_ofNat', and_true]
    omega
  | @four a b c d ha ha' hb hc hd =>
    rw [continues_iff] at hc hd
    rw [seconds_iff] at hb
    rw [bits_of_continues hb.1, bits_of_continues hc, bits_of_continues hd, val_ofNat (by omega)]
    simp only
    rw [if_neg (by omega), if_neg (by omega), if_neg (by omega)]
    simp only [List.cons.injEq, ← UInt8.toNat_inj, UInt8.toNat_ofNat', and_true]
    omega

/-- What a character is written as is a sequence that stands for it. -/
theorem sequence_encode (c : Char) : Sequence (String.utf8EncodeChar c) c := by
  have hvalid : c.val.toNat < 0xD800 ∨ 0xDFFF < c.val.toNat ∧ c.val.toNat < 0x110000 := c.valid
  have hchar : Char.ofNat c.val.toNat = c := Char.ofNat_toNat c
  unfold String.utf8EncodeChar
  generalize c.val.toNat = n at hvalid hchar
  simp only
  split
  · have hlead : (UInt8.ofNat n).toNat = n := by
      rw [UInt8.toNat_ofNat']
      omega
    have h := Sequence.one (a := UInt8.ofNat n) (by omega)
    rwa [hlead, hchar] at h
  split
  · have hlead : (UInt8.ofNat (n / 64 % 32 + 192)).toNat = n / 64 + 192 := by
      rw [UInt8.toNat_ofNat']
      omega
    have h := Sequence.two (a := UInt8.ofNat (n / 64 % 32 + 192)) (by omega) (by omega)
      (continues_trail n)
    have hvalue : 64 * (n / 64 + 192 - 0xC0) + n % 64 = n := by omega
    rwa [hlead, bits_trail, hvalue, hchar] at h
  split
  · have hlead : (UInt8.ofNat (n / 4096 % 16 + 224)).toNat = n / 4096 + 224 := by
      rw [UInt8.toNat_ofNat']
      omega
    have hsecond : seconds (UInt8.ofNat (n / 4096 % 16 + 224))
        (UInt8.ofNat (n / 64 % 64 + 128)) = true := by
      rw [seconds_iff, hlead, toNat_trail]
      omega
    have h := Sequence.three (by omega) (by omega) hsecond (continues_trail n)
    have hvalue : 4096 * (n / 4096 + 224 - 0xE0) + 64 * (n / 64 % 64) + n % 64 = n := by omega
    rwa [hlead, bits_trail, bits_trail, hvalue, hchar] at h
  · have hlead : (UInt8.ofNat (n / 262144 % 8 + 240)).toNat = n / 262144 + 240 := by
      rw [UInt8.toNat_ofNat']
      omega
    have hsecond : seconds (UInt8.ofNat (n / 262144 % 8 + 240))
        (UInt8.ofNat (n / 4096 % 64 + 128)) = true := by
      rw [seconds_iff, hlead, toNat_trail]
      omega
    have h := Sequence.four (by omega) (by omega) hsecond (continues_trail (n / 64))
      (continues_trail n)
    have hvalue : 262144 * (n / 262144 + 240 - 0xF0) + 4096 * (n / 4096 % 64) +
        64 * (n / 64 % 64) + n % 64 = n := by omega
    rwa [hlead, bits_trail, bits_trail, bits_trail, hvalue, hchar] at h

/-! ## Reading -/

/-- Reading goes on after a sequence with its character in front. -/
theorem decodeFrom_sequence {s : List UInt8} {c : Char} (h : Sequence s c) (i : Nat)
    (rest : List UInt8) :
    decodeFrom i (s ++ rest) = (decodeFrom (i + s.length) rest).map (c :: ·) := by
  cases h with
  | one ha =>
    rw [decodeFrom.eq_def]
    simp only [List.cons_append, List.nil_append, if_pos ha, List.length_singleton]
  | two ha ha' hb =>
    rw [decodeFrom.eq_def]
    simp only [List.cons_append, List.nil_append, hb, if_true, List.length_cons, List.length_nil]
    rw [if_neg (by omega), if_neg (by omega), if_pos ha']
  | three ha ha' hb hc =>
    rw [decodeFrom.eq_def]
    simp only [List.cons_append, List.nil_append, hb, hc, if_true, Bool.true_eq_false, if_false,
      List.length_cons, List.length_nil]
    rw [if_neg (by omega), if_neg (by omega), if_neg (by omega), if_pos ha']
  | four ha ha' hb hc hd =>
    rw [decodeFrom.eq_def]
    simp only [List.cons_append, List.nil_append, hb, hc, hd, if_true, Bool.true_eq_false,
      if_false, List.length_cons, List.length_nil]
    rw [if_neg (by omega), if_neg (by omega), if_neg (by omega), if_neg (by omega), if_pos ha']

/-- Bytes that are read begin with a sequence, and are read on after it. -/
theorem exists_sequence_of_decodeFrom {i : Nat} {a : UInt8} {bs : List UInt8} {cs : List Char}
    (h : decodeFrom i (a :: bs) = .ok cs) : ∃ s rest c ds, a :: bs = s ++ rest ∧
      Sequence s c ∧ decodeFrom (i + s.length) rest = .ok ds ∧ cs = c :: ds := by
  have hread {s rest : List UInt8} {c : Char} {j : Nat} (hbytes : a :: bs = s ++ rest)
      (hs : Sequence s c) (hj : j = i + s.length)
      (hmap : (decodeFrom j rest).map (c :: ·) = .ok cs) :
      ∃ s rest c ds, a :: bs = s ++ rest ∧ Sequence s c ∧
        decodeFrom (i + s.length) rest = .ok ds ∧ cs = c :: ds := by
    subst hj
    cases hrest : decodeFrom (i + s.length) rest with
    | error d =>
      rw [hrest] at hmap
      cases hmap
    | ok ds =>
      rw [hrest] at hmap
      exact ⟨s, rest, c, ds, hbytes, hs, hrest, (Except.ok.inj hmap).symm⟩
  rw [decodeFrom.eq_def] at h
  simp only at h
  split at h
  · next ha => exact hread rfl (.one ha) rfl h
  split at h
  · cases h
  next ha =>
  split at h
  · next ha' =>
    split at h
    · cases h
    · split at h
      · next hb => exact hread rfl (.two (by omega) ha' hb) rfl h
      · cases h
  split at h
  · next ha' =>
    split at h
    · cases h
    · split at h <;> cases h
    · split at h
      · cases h
      · next hb =>
        split at h
        · next hc => exact hread rfl (.three (by omega) ha' (by simpa using hb) hc) rfl h
        · cases h
  split at h
  · next ha' =>
    split at h
    · cases h
    · split at h <;> cases h
    · split at h
      · cases h
      · split at h <;> cases h
    · split at h
      · cases h
      · next hb =>
        split at h
        · cases h
        · next hc =>
          split at h
          · next hd =>
            exact hread rfl (.four (by omega) ha' (by simpa using hb) (by simpa using hc) hd) rfl h
          · cases h
  · cases h

theorem decodeFrom_encode (i : Nat) (cs : List Char) : decodeFrom i (encode cs) = .ok cs := by
  unfold encode
  induction cs generalizing i with
  | nil => rfl
  | cons c cs ih =>
    rw [List.flatMap_cons, decodeFrom_sequence (sequence_encode c), ih]
    rfl

theorem encode_of_decodeFrom {i : Nat} {bs : List UInt8} {cs : List Char}
    (h : decodeFrom i bs = .ok cs) : encode cs = bs := by
  induction hlength : bs.length using Nat.strongRecOn generalizing i bs cs with
  | _ n ih =>
    cases bs with
    | nil =>
      obtain rfl : [] = cs := Except.ok.inj h
      rfl
    | cons a bs =>
      obtain ⟨s, rest, c, ds, hbytes, hs, hrest, rfl⟩ := exists_sequence_of_decodeFrom h
      have hne : s.length ≠ 0 := by cases hs <;> simp
      have hshort : rest.length < n := by
        rw [← hlength, hbytes, List.length_append]
        omega
      rw [hbytes, ← ih rest.length hshort hrest rfl, encode, List.flatMap_cons, hs.encode_eq]
      rfl

/-- Bytes are read as a text exactly if they are what the text is written as. -/
theorem decode_eq_ok_iff {bs : List UInt8} {cs : List Char} :
    decode bs = .ok cs ↔ encode cs = bs := by
  constructor
  · exact encode_of_decodeFrom
  · rintro rfl
    exact decodeFrom_encode 0 cs

end BatchFrontier.Utf8
