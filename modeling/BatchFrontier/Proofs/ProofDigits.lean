import BatchFrontier.Proof
import BatchFrontier.Proofs.HexSpelling
import Mathlib.Data.Nat.Find
import Mathlib.Tactic.Push

/-!
# The digits of a proof

After its mark the text of a proof falls into 24 chunks of 64 digits, one for each word. The length
of the text is looked at first, then the chunks in their order, so the first chunk that holds
something else than digits decides. A text that passes is one spelling of its proof, and every
spelling of every proof passes.
-/

namespace BatchFrontier

open BatchFrontier.Text

namespace Word

/-- A word is read from the characters that in lower case are written for it. -/
theorem ofHex?_eq_some_iff {cs : List Char} {w : Word} :
    ofHex? cs = some w ↔ cs.map Char.toLower = Hex.write w.bytes := by
  rw [← Hex.read?_eq_some_iff]
  constructor
  · exact read?_of_ofHex?
  · intro h
    rw [ofHex?, h, Option.bind_some, ofBytes?_bytes]

/-- A text of the right length is read as a word exactly if it consists of digits. -/
theorem exists_ofHex?_iff {t : Text} (hlength : t.length = 64) :
    (∃ w, ofHex? t.chars = some w) ↔ t.IsHex := by
  rw [isHex_iff]
  constructor
  · rintro ⟨w, hw⟩
    exact (Hex.digits_of_read? (read?_of_ofHex? hw)).2
  · intro h
    rw [← Text.length_chars] at hlength
    obtain ⟨bs, hbs⟩ := Hex.exists_read? (by omega) h
    have hsize : bs.length = 32 := by
      have hpairs := (Hex.digits_of_read? hbs).1
      omega
    exact ⟨⟨bs, hsize⟩, ofHex?_eq_some_iff.mpr (Hex.read?_eq_some_iff.mp hbs)⟩

end Word

namespace Proof

/-! ## Chunks -/

/-- The digits of the word at a place. -/
def chunk (t : Text) (i : Nat) : Text := (t.drop (wordSize * 2 * i)).take (wordSize * 2)

/-- The chunks after the first are those of the rest of the text. -/
theorem chunk_drop (t : Text) (i : Nat) :
    chunk (t.drop (wordSize * 2)) i = chunk t (i + 1) := by
  simp only [chunk, Text.drop, List.drop_drop, Nat.mul_succ, Nat.add_comm]

theorem length_drop {t : Text} {n : Nat} (hlength : t.length = wordSize * 2 * (n + 1)) :
    (t.drop (wordSize * 2)).length = wordSize * 2 * n := by
  rw [Nat.mul_succ] at hlength
  simp only [Text.length, Text.drop, List.length_drop] at hlength ⊢
  omega

theorem length_chunk {t : Text} {n i : Nat} (hlength : t.length = wordSize * 2 * n) (hi : i < n) :
    (chunk t i).length = wordSize * 2 := by
  have hplace : wordSize * 2 * i + wordSize * 2 ≤ wordSize * 2 * n := by
    rw [← Nat.mul_succ]
    exact Nat.mul_le_mul_left _ hi
  simp only [Text.length] at hlength
  simp only [chunk, Text.length, Text.take, Text.drop, List.length_take, List.length_drop]
  omega

/-- A text consists of digits exactly if its chunks do. -/
theorem isHex_iff_chunks {t : Text} {n : Nat} (hlength : t.length = wordSize * 2 * n) :
    t.IsHex ↔ ∀ i < n, (chunk t i).IsHex := by
  induction n generalizing t with
  | zero =>
    obtain ⟨codes⟩ := t
    obtain rfl := List.eq_nil_of_length_eq_zero hlength
    simp [IsHex]
  | succ n ih =>
    have hsplit : t.IsHex ↔ (chunk t 0).IsHex ∧ (t.drop (wordSize * 2)).IsHex := by
      have hcodes := List.take_append_drop (wordSize * 2) t.codes
      rw [IsHex, ← hcodes, List.forall_mem_append]
      rfl
    rw [hsplit, ih (length_drop hlength), Nat.forall_lt_succ_left]
    simp only [chunk_drop]

/-! ## Words -/

/-- Reading words goes on after the first chunk if it is a word. -/
theorem readWords_succ_eq_ok_iff {n i : Nat} {t : Text} {w : Word}
    {ws : List Word} {h : (w :: ws).length = n + 1} :
    readWords (n + 1) i t = .ok ⟨w :: ws, h⟩ ↔ Word.ofHex? (t.take (wordSize * 2)).chars = some w ∧
      readWords n (i + 1) (t.drop (wordSize * 2)) = .ok ⟨ws, Nat.succ.inj h⟩ := by
  simp only [readWords]
  split
  · next hw => simp [hw]
  · next v hv =>
    split
    · next vs hvs hread => simp [hv, hread]
    · next f hread => simp [hv, hread]

/-- Words are read from the characters that in lower case are written for them. -/
theorem readWords_eq_ok_iff {n i : Nat} {t : Text} {ws : { ws : List Word // ws.length = n }}
    (hlength : t.length = wordSize * 2 * n) : readWords n i t = .ok ws ↔
      t.chars.map Char.toLower = Hex.write (ws.val.flatMap Word.bytes) := by
  induction n generalizing i t with
  | zero =>
    obtain ⟨codes⟩ := t
    obtain rfl := List.eq_nil_of_length_eq_zero hlength
    obtain ⟨ws, hws⟩ := ws
    obtain rfl := List.eq_nil_of_length_eq_zero hws
    exact iff_of_true rfl rfl
  | succ n ih =>
    obtain ⟨ws, hws⟩ := ws
    obtain ⟨w, ws, rfl⟩ := List.exists_cons_of_length_eq_add_one hws
    have hchars : t.chars = (t.take (wordSize * 2)).chars ++ (t.drop (wordSize * 2)).chars := by
      simp only [Text.chars, Text.take, Text.drop, ← List.map_append, List.take_append_drop]
    have hfirst : ((t.take (wordSize * 2)).chars.map Char.toLower).length =
        (Hex.write w.bytes).length := by
      have hchunk := length_chunk hlength (Nat.succ_pos n)
      rw [List.length_map, Text.length_chars, Hex.length_write, w.size]
      exact hchunk
    rw [readWords_succ_eq_ok_iff, ih (length_drop hlength), Word.ofHex?_eq_some_iff, hchars,
      List.map_append, List.flatMap_cons, Hex.write_append,
      List.append_eq_append_iff_of_size_eq_left hfirst]

/-- The first chunk that holds something else than digits is at fault. -/
theorem readWords_of_chunk {n i k : Nat} {t : Text} (hlength : t.length = wordSize * 2 * n)
    (hk : k < n) (hbefore : ∀ j < k, (chunk t j).IsHex) (hfault : ¬ (chunk t k).IsHex) :
    readWords n i t = .error (.proofWord (i + k) (chunk t k)) := by
  induction n generalizing i k t with
  | zero => cases hk
  | succ n ih =>
    have hfirst := Word.exists_ofHex?_iff (length_chunk hlength (Nat.succ_pos n))
    have hhere : t.take (wordSize * 2) = chunk t 0 := rfl
    simp only [readWords, hhere]
    cases k with
    | zero =>
      have hnone : Word.ofHex? (chunk t 0).chars = none := by
        rw [Option.eq_none_iff_forall_ne_some]
        intro w hw
        exact hfault (hfirst.mp ⟨w, hw⟩)
      rw [hnone]
      rfl
    | succ k =>
      obtain ⟨w, hw⟩ := hfirst.mpr (hbefore 0 (Nat.succ_pos k))
      have hrest := ih (i := i + 1) (k := k) (length_drop hlength) (Nat.lt_of_succ_lt_succ hk)
        (fun j hj => by rw [chunk_drop]; exact hbefore (j + 1) (Nat.succ_lt_succ hj))
        (by rwa [chunk_drop])
      rw [hw, hrest, chunk_drop, Nat.add_right_comm]
      rfl

/-! ## Texts -/

/-- A proof takes 768 bytes. -/
theorem length_bytes (p : Proof) : (p.words.flatMap Word.bytes).length = 768 := by
  have hwords (ws : List Word) : (ws.flatMap Word.bytes).length = 32 * ws.length := by
    induction ws with
    | nil => rfl
    | cons w ws ih =>
      rw [List.flatMap_cons, List.length_append, List.length_cons, w.size, ih]
      omega
  rw [hwords, p.count]
  rfl

/-- A text of the wrong length is refused. -/
theorem ofText_of_length {t : Text} (h : (Hex.dropTextMark t).length ≠ digitCount) :
    ofText t = .error (.proofLength t.length) := if_pos h

/-- A text is read as the proof that its digits stand for. -/
theorem ofText_eq_ok_iff {t : Text} {p : Proof} :
    ofText t = .ok p ↔ Hex.StandsFor t (p.words.flatMap Word.bytes) := by
  obtain ⟨words, count⟩ := p
  rw [Hex.standsFor_iff]
  by_cases hlength : (Hex.dropTextMark t).length = digitCount
  · have hread : readWords wordCount 0 (Hex.dropTextMark t) = .ok ⟨words, count⟩ ↔
        (Hex.dropTextMark t).chars.map Char.toLower = Hex.write (words.flatMap Word.bytes) :=
      readWords_eq_ok_iff hlength
    rw [Hex.read?_eq_some_iff, ← hread]
    simp only [ofText, hlength, ne_eq, not_true_eq_false, if_false]
    split
    · next ws hws hok =>
      rw [hok]
      simp
    · next f herror =>
      rw [herror]
      simp
  · rw [ofText_of_length hlength]
    refine iff_of_false (by simp) fun h => hlength ?_
    rw [← Text.length_chars, (Hex.digits_of_read? h).1, length_bytes ⟨words, count⟩]
    rfl

/-- A text that is a proof writes the bytes of its words after its mark. -/
theorem read?_of_ofText {t : Text} {p : Proof} (h : ofText t = .ok p) :
    Hex.read? (Hex.dropMark t.chars) = some (p.words.flatMap Word.bytes) := by
  rw [← Hex.chars_dropTextMark]
  exact Hex.standsFor_iff.mp (ofText_eq_ok_iff.mp h)

/-- A proof is read back from its digits. -/
theorem ofText_writeMarked (p : Proof) :
    ofText (Hex.writeMarked (p.words.flatMap Word.bytes)) = .ok p :=
  ofText_eq_ok_iff.mpr (Hex.standsFor_writeMarked _)

/-! ## Words and chunks -/

/-- Bytes in the right number are those of some words. -/
theorem exists_words {n : Nat} {bs : List UInt8} (hlength : bs.length = 32 * n) :
    ∃ ws : List Word, ws.length = n ∧ ws.flatMap Word.bytes = bs := by
  induction n generalizing bs with
  | zero =>
    obtain rfl := List.eq_nil_of_length_eq_zero hlength
    exact ⟨[], rfl, rfl⟩
  | succ n ih =>
    have hfirst : (bs.take 32).length = 32 := by
      rw [List.length_take]
      omega
    have hrest : (bs.drop 32).length = 32 * n := by
      rw [List.length_drop]
      omega
    obtain ⟨ws, hcount, hws⟩ := ih hrest
    refine ⟨⟨bs.take 32, hfirst⟩ :: ws, congrArg Nat.succ hcount, ?_⟩
    rw [List.flatMap_cons, hws, List.take_append_drop]

/-- A text is read as some proof exactly if it has the right length and consists of digits. -/
theorem exists_ofText_iff {t : Text} : (∃ p, ofText t = .ok p) ↔
    (Hex.dropTextMark t).length = digitCount ∧ (Hex.dropTextMark t).IsHex := by
  constructor
  · rintro ⟨p, hp⟩
    have hread := Hex.standsFor_iff.mp (ofText_eq_ok_iff.mp hp)
    obtain ⟨hlength, hdigits⟩ := Hex.digits_of_read? hread
    rw [Text.length_chars, length_bytes] at hlength
    exact ⟨hlength, isHex_iff.mpr hdigits⟩
  · rintro ⟨hlength, hhex⟩
    obtain ⟨bs, hstands⟩ := Hex.exists_standsFor_iff.mpr ⟨by rw [hlength]; rfl, hhex⟩
    have hbytes : bs.length = 32 * wordCount := by
      have hpairs := (Hex.digits_of_read? (Hex.standsFor_iff.mp hstands)).1
      rw [Text.length_chars, hlength] at hpairs
      simp only [digitCount, wordCount, wordSize] at hpairs ⊢
      omega
    obtain ⟨ws, hcount, rfl⟩ := exists_words hbytes
    exact ⟨⟨ws, hcount⟩, ofText_eq_ok_iff.mpr hstands⟩

/-- What is written for a word stands at its place among what is written for all of them. -/
theorem take_drop_write {ws : List Word} {i : Nat} {w : Word} (hw : ws[i]? = some w) :
    ((Hex.write (ws.flatMap Word.bytes)).drop (wordSize * 2 * i)).take (wordSize * 2) =
      Hex.write w.bytes := by
  have hsize (v : Word) : (Hex.write v.bytes).length = wordSize * 2 := by
    rw [Hex.length_write, v.size]
    rfl
  induction ws generalizing i with
  | nil => cases hw
  | cons v ws ih =>
    rw [List.flatMap_cons, Hex.write_append]
    cases i with
    | zero =>
      obtain rfl := Option.some.inj hw
      exact List.take_left' (hsize v)
    | succ i =>
      have hplace : wordSize * 2 * (i + 1) = wordSize * 2 + wordSize * 2 * i :=
        (Nat.mul_succ _ i).trans (Nat.add_comm _ _)
      rw [hplace, ← List.drop_drop, List.drop_left' (hsize v)]
      exact ih hw

/-- In lower case a chunk is what is written for the word at its place. -/
theorem chunk_of_ofText {t : Text} {p : Proof} (hp : ofText t = .ok p) {i : Nat} {w : Word}
    (hw : p.words[i]? = some w) :
    (chunk (Hex.dropTextMark t) i).chars.map Char.toLower = Hex.write w.bytes := by
  have hlower := Hex.read?_eq_some_iff.mp (Hex.standsFor_iff.mp (ofText_eq_ok_iff.mp hp))
  rw [← take_drop_write hw, ← hlower]
  simp only [chunk, Text.chars, Text.take, Text.drop, List.map_take, List.map_drop]

/-- Of a text of the right length with something else than digits the first chunk that is at fault
is named. -/
theorem exists_ofText_eq_error {t : Text} (hlength : (Hex.dropTextMark t).length = digitCount)
    (hhex : ¬ (Hex.dropTextMark t).IsHex) :
    ∃ i < wordCount, ¬ (chunk (Hex.dropTextMark t) i).IsHex ∧
      (∀ j < i, (chunk (Hex.dropTextMark t) j).IsHex) ∧
      ofText t = .error (.proofWord i (chunk (Hex.dropTextMark t) i)) := by
  classical
  have hfaulty : ∃ i, i < wordCount ∧ ¬ (chunk (Hex.dropTextMark t) i).IsHex := by
    rw [isHex_iff_chunks (n := wordCount) hlength] at hhex
    push Not at hhex
    exact hhex
  obtain ⟨hi, hfault⟩ := Nat.find_spec hfaulty
  have hbefore : ∀ j < Nat.find hfaulty, (chunk (Hex.dropTextMark t) j).IsHex := by
    intro j hj
    have hleast := Nat.find_min hfaulty hj
    push Not at hleast
    exact hleast (hj.trans hi)
  refine ⟨Nat.find hfaulty, hi, hfault, hbefore, ?_⟩
  have hread := readWords_of_chunk (i := 0) hlength hi hbefore hfault
  rw [Nat.zero_add] at hread
  simp only [ofText, hlength, ne_eq, not_true_eq_false, if_false, hread]

/-! ## The codec -/

/-- That `read` reads proofs from all of their spellings and tells what is wrong with any other
text. -/
structure IsCodec (read : Text → Except Fault Proof) : Prop where
  /-- A text is read if after one mark or none it has 1536 codes, all of them digits. -/
  accepts : ∀ t, (∃ p, read t = .ok p) ↔
    (Hex.dropTextMark t).length = 1536 ∧ (Hex.dropTextMark t).IsHex
  /-- What is read are 24 words of 32 bytes. Written one after the other they are the digits of the
  text in lower case, and each of them is its own 64 digits. -/
  words : ∀ t p, read t = .ok p → p.words.length = 24 ∧
    Hex.write (p.words.flatMap Word.bytes) = (Hex.dropTextMark t).chars.map Char.toLower ∧
    ∀ i w, p.words[i]? = some w → w.bytes.length = 32 ∧
      Hex.write w.bytes = (chunk (Hex.dropTextMark t) i).chars.map Char.toLower
  /-- Every proof is read from each of its spellings: in any case, with a mark or without one. -/
  complete : ∀ p t, Hex.StandsFor t (p.words.flatMap Word.bytes) → read t = .ok p
  /-- Two texts are read as the same words exactly if their digits are the same up to case. -/
  injective : ∀ s t p q, read s = .ok p → read t = .ok q → (p = q ↔
    (Hex.dropTextMark s).chars.map Char.toLower = (Hex.dropTextMark t).chars.map Char.toLower)
  /-- A text of the wrong length is refused, whatever it consists of. The length of all of it is
  reported. -/
  length : ∀ t, (Hex.dropTextMark t).length ≠ 1536 → read t = .error (.proofLength t.length)
  /-- Any other text is refused for its first chunk that holds something else than digits. -/
  digits : ∀ t, (Hex.dropTextMark t).length = 1536 → ¬ (Hex.dropTextMark t).IsHex →
    ∃ i < 24, ¬ (chunk (Hex.dropTextMark t) i).IsHex ∧
      (∀ j < i, (chunk (Hex.dropTextMark t) j).IsHex) ∧
      read t = .error (.proofWord i (chunk (Hex.dropTextMark t) i))

/-- Proofs are read from all of their spellings, and what is wrong with any other text is told. -/
theorem ofText_isCodec : IsCodec ofText := by
  have hlower {t : Text} {p : Proof} (hp : ofText t = .ok p) :
      (Hex.dropTextMark t).chars.map Char.toLower = Hex.write (p.words.flatMap Word.bytes) :=
    Hex.read?_eq_some_iff.mp (Hex.standsFor_iff.mp (ofText_eq_ok_iff.mp hp))
  refine ⟨fun t => exists_ofText_iff, fun t p hp => ⟨p.count, (hlower hp).symm, ?_⟩,
    fun p t => ofText_eq_ok_iff.mpr, fun s t p q hs ht => ?_, fun t => ofText_of_length,
    fun t => exists_ofText_eq_error⟩
  · intro i w hw
    exact ⟨w.size, (chunk_of_ofText hp hw).symm⟩
  · constructor
    · rintro rfl
      rw [hlower hs, hlower ht]
    · intro hsame
      -- The digits of either text are read as the words of the other.
      have hread : ofText s = .ok q := by
        rw [ofText_eq_ok_iff, Hex.standsFor_iff, Hex.read?_eq_some_iff, hsame]
        exact hlower ht
      exact Except.ok.inj (hs.symm.trans hread)

end Proof

end BatchFrontier
