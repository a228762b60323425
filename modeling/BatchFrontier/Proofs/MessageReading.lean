import BatchFrontier.Abi.Message
import BatchFrontier.Proofs.HexReading
import BatchFrontier.Proofs.Utf8Reading
import BatchFrontier.Proofs.WordFilling

/-!
# Reading messages

A message comes as digits, which are pairs with blanks around them, and the digits are those of a
text in words. Either reading accepts exactly what is written well: digits are read as the bytes
that their pairs spell, and bytes as the text that they encode strictly.
-/

namespace BatchFrontier

namespace Hex

open BatchFrontier.Text

/-- That some characters spell bytes: a pair of digits for each byte, in either case, with plain
blanks before, between and after the pairs. -/
inductive Spells : List Char → List UInt8 → Prop where
  | nil : Spells [] []
  | blank {c : Char} {cs : List Char} {bs : List UInt8} (hc : isPlainBlank c = true)
    (h : Spells cs bs) : Spells (c :: cs) bs
  | pair {high low : Char} {b : UInt8} {cs : List Char} {bs : List UInt8}
    (hb : byte? high low = some b) (h : Spells cs bs) : Spells (high :: low :: cs) (b :: bs)

/-- Two characters that stand for a byte are digits. -/
theorem isHexDigit_of_byte? {high low : Char} {b : UInt8} (h : byte? high low = some b) :
    isHexDigit high = true ∧ isHexDigit low = true := by
  simp only [byte?, Option.bind_eq_bind, Option.bind_eq_some_iff] at h
  obtain ⟨m, hm, n, hn, -⟩ := h
  simp [isHexDigit, hm, hn]

/-- A blank is no digit. -/
theorem isHexDigit_of_isPlainBlank {c : Char} (h : isPlainBlank c = true) :
    isHexDigit c = false := by
  simp only [isPlainBlank, Bool.or_eq_true, beq_iff_eq, Bool.and_eq_true, decide_eq_true_eq] at h
  rcases h with rfl | h
  · decide
  · simp only [isHexDigit, hexValue?]
    rw [if_neg (by omega), if_neg (by omega), if_neg (by omega)]
    rfl

theorem toNat_lt_of_isPlainBlank {c : Char} (h : isPlainBlank c = true) : c.toNat < 128 := by
  simp only [isPlainBlank, Bool.or_eq_true, beq_iff_eq, Bool.and_eq_true, decide_eq_true_eq] at h
  rcases h with rfl | h
  · decide
  · omega

/-- What spells bytes is in ASCII. -/
theorem Spells.toNat_lt {cs : List Char} {bs : List UInt8} (h : Spells cs bs) :
    ∀ c ∈ cs, c.toNat < 128 := by
  induction h with
  | nil => simp
  | blank hc _ ih => exact List.forall_mem_cons.mpr ⟨toNat_lt_of_isPlainBlank hc, ih⟩
  | pair hb _ ih =>
    obtain ⟨hhigh, hlow⟩ := isHexDigit_of_byte? hb
    exact List.forall_mem_cons.mpr ⟨toNat_lt_of_isHexDigit hhigh,
      List.forall_mem_cons.mpr ⟨toNat_lt_of_isHexDigit hlow, ih⟩⟩

/-- What spells bytes is scanned as them. -/
theorem Spells.scanSpaced {cs : List Char} {bs : List UInt8} (h : Spells cs bs) (i : Nat) :
    scanSpaced i cs = .ok bs := by
  induction h generalizing i with
  | nil => rfl
  | @blank c cs bs hc h ih =>
    cases cs with
    | nil =>
      cases h
      simp only [Hex.scanSpaced, hc, if_true]
    | cons d rest =>
      simp only [Hex.scanSpaced, hc, if_true]
      exact ih (i + 1)
  | @pair high low b cs bs hb h ih =>
    obtain ⟨hhigh, -⟩ := isHexDigit_of_byte? hb
    have hblank : isPlainBlank high = false := by
      by_contra hblank
      rw [isHexDigit_of_isPlainBlank (by simpa using hblank)] at hhigh
      cases hhigh
    simp only [Hex.scanSpaced, hblank, hhigh, hb, ih (i + 2)]
    rfl

/-- Only what spells bytes is scanned as them. -/
theorem spells_of_scanSpaced {i : Nat} {cs : List Char} {bs : List UInt8}
    (h : scanSpaced i cs = .ok bs) : Spells cs bs := by
  induction i, cs using scanSpaced.induct generalizing bs with
  | case1 i =>
    cases h
    exact .nil
  | case2 i c hc =>
    rw [scanSpaced, if_pos hc] at h
    cases h
    exact .blank hc .nil
  | case3 i c hc =>
    rw [scanSpaced, if_neg hc] at h
    cases h
  | case4 i c d rest hc ih =>
    rw [scanSpaced, if_pos hc] at h
    exact .blank hc (ih h)
  | case5 i c d rest hc hdigit =>
    rw [scanSpaced, if_neg hc, if_pos hdigit] at h
    cases h
  | case6 i c d rest hc hdigit b hb ih =>
    rw [scanSpaced, if_neg hc, if_neg hdigit, hb] at h
    cases hrest : scanSpaced (i + 2) rest with
    | error j =>
      rw [hrest] at h
      cases h
    | ok bs' =>
      rw [hrest] at h
      cases h
      exact .pair hb (ih hrest)
  | case7 i c d rest hc hdigit hb =>
    rw [scanSpaced, if_neg hc, if_neg hdigit, hb] at h
    cases h

/-- Characters are read as the bytes that they spell. -/
theorem readSpaced_eq_ok_iff {cs : List Char} {bs : List UInt8} :
    readSpaced cs = .ok bs ↔ Spells cs bs := by
  constructor
  · intro h
    unfold readSpaced at h
    split at h
    · cases h
    · exact spells_of_scanSpaced h
  · intro h
    have hascii : cs.findIdx? (fun c => decide (128 ≤ c.toNat)) = none := by
      rw [List.findIdx?_eq_none_iff]
      intro c hc
      have hlt := h.toNat_lt c hc
      simp only [decide_eq_false_iff_not]
      omega
    rw [readSpaced, hascii]
    exact h.scanSpaced 0

/-- Written bytes are spelled. -/
theorem spells_write (bs : List UInt8) : Spells (write bs) bs := by
  induction bs with
  | nil => exact .nil
  | cons b bs ih =>
    rw [write_cons, ofByte]
    exact .pair (byte?_ofByte b) ih

end Hex

namespace BigEndian

/-- A number is written as the bytes that it was read from. -/
theorem ofNat_toNat (bs : List UInt8) : ofNat bs.length (toNat bs) = bs := by
  induction bs using List.reverseRecOn with
  | nil => rfl
  | append_singleton bs b ih =>
    have hb := b.toNat_lt
    have hdiv : (256 * toNat bs + b.toNat) / 256 = toNat bs := by omega
    have hlast : UInt8.ofNat (256 * toNat bs + b.toNat) = b := by
      rw [← UInt8.toNat_inj, UInt8.toNat_ofNat']
      omega
    rw [List.length_append, List.length_singleton, toNat_append_singleton, ofNat, hdiv, ih, hlast]

/-- A word holds every number below its capacity. -/
theorem toNat_word {n : Nat} (h : n < 2 ^ 256) : toNat (ofNat 32 n) = n := by
  rw [toNat_ofNat]
  exact Nat.mod_eq_of_lt h

/-- The first word of a byte string is that of a number which a word holds. -/
theorem ofNat_toNat_take {bs : List UInt8} (h : 32 ≤ bs.length) :
    ofNat 32 (toNat (bs.take 32)) = bs.take 32 ∧ toNat (bs.take 32) < 2 ^ 256 := by
  have hfirst : (bs.take 32).length = 32 := List.length_take_of_le h
  have hbound := toNat_lt (bs.take 32)
  have hwritten := ofNat_toNat (bs.take 32)
  rw [hfirst] at hbound hwritten
  exact ⟨hwritten, hbound⟩

end BigEndian

namespace Abi

/-- A text in words: its length in bytes, its bytes, and zeros up to whole words. -/
def textWords (s : List Char) : List UInt8 :=
  BigEndian.ofNat 32 (Utf8.encode s).length ++ (Utf8.encode s ++
    List.replicate (wholeWords (Utf8.encode s).length - (Utf8.encode s).length) 0)

/-- That a byte string encodes a text strictly: its first word is the distance to a text in words,
which stands whole behind that word. Between the two and after the text there may be anything. -/
def Encodes (bs : List UInt8) (s : List Char) : Prop :=
  ∃ between after, bs = BigEndian.ofNat 32 (32 + between.length) ++
      (between ++ (textWords s ++ after)) ∧
    32 + between.length < 2 ^ 256 ∧ (Utf8.encode s).length < 2 ^ 256

/-- The distance that a byte string begins with. -/
def distance (bs : List UInt8) : Nat := BigEndian.toNat (bs.take 32)

/-- The number of bytes that the text at the distance has. -/
def textLength (bs : List UInt8) : Nat := BigEndian.toNat ((bs.drop (distance bs)).take 32)

/-- What stands behind the number of bytes, as far as whole words for them reach. -/
def textFilled (bs : List UInt8) : List UInt8 :=
  ((bs.drop (distance bs)).drop 32).take (wholeWords (textLength bs))

/-- What keeps a byte string from being a text in words. -/
inductive IsMalformed (bs : List UInt8) : Prop where
  /-- There is no word for the distance. -/
  | noDistance (h : bs.length < 32)
  /-- The distance leads into its own word. -/
  | nearDistance (h : distance bs < 32)
  /-- The distance leads to the end or behind it. -/
  | farDistance (h : bs.length ≤ distance bs)
  /-- There is no word for the length. -/
  | noLength (h : (bs.drop (distance bs)).length < 32)
  /-- The words for the length reach behind the end. -/
  | cutShort (h : (textFilled bs).length ≠ wholeWords (textLength bs))
  /-- The filling is not zero. -/
  | filling (h : ∃ b ∈ (textFilled bs).drop (textLength bs), b ≠ 0)
  /-- The bytes are those of no text. -/
  | notUtf8 (h : ∀ s, Utf8.encode s ≠ (textFilled bs).take (textLength bs))

theorem le_wholeWords (n : Nat) : n ≤ wholeWords n := by
  unfold wholeWords
  omega

theorem length_textWords (s : List Char) :
    (textWords s).length = 32 + wholeWords (Utf8.encode s).length := by
  have hle := le_wholeWords (Utf8.encode s).length
  simp only [textWords, List.length_append, BigEndian.length_ofNat, List.length_replicate]
  omega

/-- A written text is encoded strictly, whatever follows it. -/
theorem encodes_writeMessage {s : List Char} (h : (Utf8.encode s).length < 2 ^ 256)
    (extra : List UInt8) : Encodes (writeMessage s ++ extra) s := by
  refine ⟨[], extra, ?_, by decide, h⟩
  simp [writeMessage, textWords]

section

variable (s : List Char) (after : List UInt8)

/-- A text in words begins with its length. -/
theorem take_textWords :
    (textWords s ++ after).take 32 = BigEndian.ofNat 32 (Utf8.encode s).length := by
  rw [textWords, List.append_assoc]
  exact List.take_left' (BigEndian.length_ofNat 32 _)

/-- After its length stand the bytes of a text, filled up to whole words. -/
theorem filled_textWords :
    ((textWords s ++ after).drop 32).take (wholeWords (Utf8.encode s).length) = Utf8.encode s ++
      List.replicate (wholeWords (Utf8.encode s).length - (Utf8.encode s).length) 0 := by
  have hle := le_wholeWords (Utf8.encode s).length
  rw [textWords, List.append_assoc, List.drop_left' (BigEndian.length_ofNat 32 _)]
  refine List.take_left' ?_
  rw [List.length_append, List.length_replicate]
  omega

end

/-- What encodes a text strictly is read as that text. -/
theorem readMessage?_of_encodes {bs : List UInt8} {s : List Char} (h : Encodes bs s) :
    readMessage? bs = some s := by
  obtain ⟨between, after, hbs, hdistance, hlength⟩ := h
  have hle := le_wholeWords (Utf8.encode s).length
  have hwords := length_textWords s
  have hfirst : (BigEndian.ofNat 32 (32 + between.length) ++
      (between ++ (textWords s ++ after))).take 32 = BigEndian.ofNat 32 (32 + between.length) :=
    List.take_left' (BigEndian.length_ofNat 32 _)
  have htail : (BigEndian.ofNat 32 (32 + between.length) ++
      (between ++ (textWords s ++ after))).drop (32 + between.length) = textWords s ++ after := by
    rw [← List.append_assoc]
    exact List.drop_left' (by rw [List.length_append, BigEndian.length_ofNat])
  rw [hbs, readMessage?]
  simp only [hfirst, BigEndian.toNat_word hdistance, htail, take_textWords,
    BigEndian.toNat_word hlength, filled_textWords]
  rw [if_neg (by simp only [List.length_append, BigEndian.length_ofNat, hwords]; omega),
    if_neg (by simp only [List.length_append, List.length_replicate]; omega),
    List.drop_left, List.take_left, if_neg (by simp), Utf8.decode_eq_ok_iff.mpr rfl]

/-- A text whose bytes stand behind their number, filled up with zeros, stands there in words. -/
theorem exists_textWords {bs filled : List UInt8} {s : List Char} {size : Nat}
    (hword : 32 ≤ bs.length) (hsize : BigEndian.toNat (bs.take 32) = size)
    (hfilled : (bs.drop 32).take (wholeWords size) = filled)
    (hwhole : filled.length = wholeWords size) (hzero : ∀ b ∈ filled.drop size, b = 0)
    (hencode : Utf8.encode s = filled.take size) :
    ∃ after, bs = textWords s ++ after ∧ (Utf8.encode s).length < 2 ^ 256 := by
  obtain ⟨hwritten, hbound⟩ := BigEndian.ofNat_toNat_take hword
  rw [hsize] at hwritten hbound
  have hle := le_wholeWords size
  have hlength : (Utf8.encode s).length = size := by
    rw [hencode, List.length_take]
    omega
  have hzeros : filled.drop size = List.replicate (wholeWords size - size) 0 := by
    rw [List.eq_replicate_iff, List.length_drop, hwhole]
    exact ⟨rfl, hzero⟩
  refine ⟨(bs.drop 32).drop (wholeWords size), ?_, by rw [hlength]; exact hbound⟩
  rw [textWords, hlength, hencode, ← hzeros, List.take_append_drop, hwritten, ← hfilled,
    List.append_assoc, List.take_append_drop, List.take_append_drop]

/-- How a byte string is read, step by step. -/
theorem readMessage?_eq (bs : List UInt8) : readMessage? bs =
    if bs.length < 32 ∨ distance bs < 32 ∨ bs.length ≤ distance bs ∨
        (bs.drop (distance bs)).length < 32 then none
    else if (textFilled bs).length ≠ wholeWords (textLength bs) then none
    else if ((textFilled bs).drop (textLength bs)).any (· != 0) then none
    else
      match Utf8.decode ((textFilled bs).take (textLength bs)) with
      | .ok cs => some cs
      | .error _ => none := rfl

/-- Only what encodes a text strictly is read as that text. -/
theorem encodes_of_readMessage? {bs : List UInt8} {s : List Char}
    (h : readMessage? bs = some s) : Encodes bs s := by
  rw [readMessage?_eq] at h
  split at h
  · cases h
  next hplaces =>
  split at h
  · cases h
  next hwhole =>
  split at h
  · cases h
  next hzero =>
  split at h
  case h_2 => cases h
  next cs hdecode =>
  obtain rfl : cs = s := Option.some.inj h
  simp only [ne_eq, Decidable.not_not] at hwhole
  simp only [List.any_eq_true, bne_iff_ne, ne_eq, not_exists, not_and, Decidable.not_not] at hzero
  obtain ⟨after, htail, hlength⟩ := exists_textWords (by omega) rfl rfl hwhole hzero
    (Utf8.decode_eq_ok_iff.mp hdecode)
  have hword : 32 ≤ bs.length := by omega
  obtain ⟨hwritten, hbound⟩ := BigEndian.ofNat_toNat_take hword
  change BigEndian.ofNat 32 (distance bs) = _ at hwritten
  change distance bs < _ at hbound
  have hbetween : 32 + ((bs.drop 32).take (distance bs - 32)).length = distance bs := by
    rw [List.length_take, List.length_drop]
    omega
  have hdrop : (bs.drop 32).drop (distance bs - 32) = bs.drop (distance bs) := by
    rw [List.drop_drop, Nat.add_sub_cancel' (by omega)]
  refine ⟨(bs.drop 32).take (distance bs - 32), after, ?_, by rw [hbetween]; exact hbound, hlength⟩
  rw [hbetween, hwritten, ← htail, ← hdrop, List.take_append_drop, List.take_append_drop]

/-- A byte string is read as no text exactly if it is malformed. -/
theorem readMessage?_eq_none_iff {bs : List UInt8} : readMessage? bs = none ↔ IsMalformed bs := by
  rw [readMessage?_eq]
  constructor
  · intro h
    split at h
    · next hplaces =>
      rcases hplaces with hplace | hplace | hplace | hplace
      · exact .noDistance hplace
      · exact .nearDistance hplace
      · exact .farDistance hplace
      · exact .noLength hplace
    split at h
    · next hwhole => exact .cutShort hwhole
    split at h
    · next hzero => exact .filling (by simpa using hzero)
    split at h
    · cases h
    · next defect hdecode =>
      refine .notUtf8 fun s hs => ?_
      rw [Utf8.decode_eq_ok_iff.mpr hs] at hdecode
      cases hdecode
  · intro h
    split
    · rfl
    next hplaces =>
    split
    · rfl
    next hwhole =>
    split
    · rfl
    next hzero =>
    split
    · next s hdecode =>
      exfalso
      cases h with
      | noDistance h => omega
      | nearDistance h => omega
      | farDistance h => omega
      | noLength h => omega
      | cutShort h => exact hwhole h
      | filling h => exact hzero (by simpa using h)
      | notUtf8 h => exact h s (Utf8.decode_eq_ok_iff.mp hdecode)
    · rfl

/-- A byte string is read as the text that it encodes strictly. -/
theorem readMessage?_eq_some_iff {bs : List UInt8} {s : List Char} :
    readMessage? bs = some s ↔ Encodes bs s :=
  ⟨encodes_of_readMessage?, readMessage?_of_encodes⟩

end Abi

end BatchFrontier
