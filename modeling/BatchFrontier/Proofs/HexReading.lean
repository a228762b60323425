import BatchFrontier.Address
import BatchFrontier.Word
import Mathlib.Data.List.TakeWhile

/-!
# Reading hexadecimal digits

Readers see the value of a digit and not its case, so two texts whose digits have the same values
are the same bytes. This is why an address is read back from the text in which its letters have
their checked case.
-/

namespace BatchFrontier

namespace Text

/-- The upper-case form of a lower-case letter comes 32 places before it. -/
theorem toNat_toUpper (c : Char) :
    c.toUpper.toNat = if 97 ≤ c.toNat ∧ c.toNat ≤ 122 then c.toNat - 32 else c.toNat := by
  have hrange : ('a'.val ≤ c.val ∧ c.val ≤ 'z'.val) ↔ (97 ≤ c.toNat ∧ c.toNat ≤ 122) := Iff.rfl
  unfold Char.toUpper
  split
  · next h =>
    have hc := hrange.mp h
    have hsize : c.val.toNat < 2 ^ 32 := c.val.toNat_lt
    have hval : c.val.toNat = c.toNat := rfl
    rw [if_pos hc]
    change (c.val + ('A'.val - 'a'.val)).toNat = c.toNat - 32
    rw [UInt32.toNat_add, show ('A'.val - 'a'.val).toNat = 2 ^ 32 - 32 from rfl]
    omega
  · next h => rw [if_neg (mt hrange.mpr h)]

/-- The lower-case form of an upper-case letter comes 32 places behind it. -/
theorem toNat_toLower (c : Char) :
    c.toLower.toNat = if 65 ≤ c.toNat ∧ c.toNat ≤ 90 then c.toNat + 32 else c.toNat := by
  have hrange : (c.val ≥ 'A'.val ∧ c.val ≤ 'Z'.val) ↔ (65 ≤ c.toNat ∧ c.toNat ≤ 90) := Iff.rfl
  unfold Char.toLower
  split
  · next h =>
    have hc := hrange.mp h
    have hval : c.val.toNat = c.toNat := rfl
    rw [if_pos hc]
    change (c.val + ('a'.val - 'A'.val)).toNat = c.toNat + 32
    rw [UInt32.toNat_add, show ('a'.val - 'A'.val).toNat = 32 from rfl]
    omega
  · next h => rw [if_neg (mt hrange.mpr h)]

/-- The value of a digit does not depend on its case. -/
theorem hexValue?_toUpper (c : Char) : hexValue? c.toUpper = hexValue? c := by
  unfold hexValue?
  rw [toNat_toUpper]
  grind

/-- All digits are characters of ASCII. -/
theorem toNat_lt_of_isHexDigit {c : Char} (h : isHexDigit c = true) : c.toNat < 128 := by
  simp only [isHexDigit, hexValue?] at h
  grind

/-- Written digits are digits. -/
theorem isHexDigit_of_mem_hexOfWidth {c : Char} {width n : Nat} (h : c ∈ hexOfWidth width n) :
    isHexDigit c = true := by
  induction width generalizing n with
  | zero => simp [hexOfWidth] at h
  | succ width ih =>
    rcases List.mem_append.mp h with h | h
    · exact ih h
    · rw [List.mem_singleton.mp h, isHexDigit, hexValue?_hexDigit]
      rfl

end Text

namespace Hex

open BatchFrontier.Text

/-- A byte is told by the values of its two digits. -/
theorem byte?_congr {a b c d : Char} (hhigh : hexValue? a = hexValue? c)
    (hlow : hexValue? b = hexValue? d) : byte? a b = byte? c d := by
  simp only [byte?, hhigh, hlow]

/-- Texts whose digits have the same values are read as the same bytes. -/
theorem read?_congr {cs ds : List Char} (h : cs.map hexValue? = ds.map hexValue?) :
    read? cs = read? ds := by
  induction cs using read?.induct generalizing ds with
  | case1 =>
    have hnil : ds = [] := by simpa using h.symm
    rw [hnil]
  | case2 c =>
    obtain ⟨d, ds, rfl, -, h⟩ := List.map_eq_cons_iff.mp h.symm
    obtain rfl := List.map_eq_nil_iff.mp h
    rfl
  | case3 a b rest ih =>
    obtain ⟨c, ds, rfl, hhigh, h⟩ := List.map_eq_cons_iff.mp h.symm
    obtain ⟨d, ds, rfl, hlow, hrest⟩ := List.map_eq_cons_iff.mp h
    simp only [read?, byte?_congr hhigh.symm hlow.symm, ih hrest.symm]

/-- What is written is written in digits. -/
theorem isHexDigit_of_mem_write {c : Char} {bs : List UInt8} (h : c ∈ write bs) :
    isHexDigit c = true := by
  obtain ⟨b, _, hc⟩ := List.mem_flatMap.mp h
  exact isHexDigit_of_mem_hexOfWidth hc

end Hex

namespace Word

/-- A word is read from the digits of its bytes and from no others. -/
theorem read?_of_ofHex? {cs : List Char} {w : Word} (h : ofHex? cs = some w) :
    Hex.read? cs = some w.bytes := by
  obtain ⟨bs, hread, hof⟩ := Option.bind_eq_some_iff.mp h
  obtain ⟨hsize, hword⟩ := Option.dite_none_right_eq_some.mp hof
  obtain rfl := Option.some.inj hword
  exact hread

end Word

namespace Address

/-- A digit has the same value in its checked case. -/
theorem hexValue?_checked (c : Char) (half : Nat) :
    Text.hexValue? (checked c half) = Text.hexValue? c := by
  unfold checked
  split
  · exact Text.hexValue?_toUpper c
  · rfl

/-- The half-bytes are twice as many as the bytes. -/
theorem length_halves (bs : List UInt8) : (halves bs).length = 2 * bs.length := by
  induction bs with
  | nil => rfl
  | cons b bs ih =>
    have hcons : halves (b :: bs) = b.toNat / 16 :: b.toNat % 16 :: halves bs := rfl
    simp only [hcons, List.length_cons, ih]
    omega

/-- A digit other than a letter has no checked case. -/
theorem checked_of_lt {c : Char} (h : c.toNat < 97) (half : Nat) : checked c half = c := by
  have hupper : c.toUpper = c := by
    rw [← Char.toNat_inj, Text.toNat_toUpper, if_neg]
    omega
  unfold checked
  split
  · exact hupper
  · rfl

/-- What does not tell the checked case of a digit from its plain one does not tell the checked
digits from the plain ones. -/
theorem map_digits {β : Type} {f : Char → β} (a : Address)
    (hf : ∀ c ∈ Hex.write a.bytes, ∀ half, f (checked c half) = f c) :
    a.digits.map f = (Hex.write a.bytes).map f := by
  have hhalves : (Hex.write a.bytes).length ≤
      (halves (Keccak.digest (Utf8.encode (Hex.write a.bytes)))).length := by
    rw [Hex.length_write, a.size, length_halves, Keccak.length_digest]
    decide
  have hzip (cs : List Char) (hs : List Nat) (h : cs.length ≤ hs.length)
      (hcs : ∀ c ∈ cs, ∀ half, f (checked c half) = f c) :
      (List.zipWith checked cs hs).map f = cs.map f := by
    induction cs generalizing hs with
    | nil => rfl
    | cons c cs ih =>
      match hs, h with
      | half :: hs, h =>
        obtain ⟨hc, hrest⟩ := List.forall_mem_cons.mp hcs
        rw [List.zipWith_cons_cons, List.map_cons, List.map_cons, hc half,
          ih hs (Nat.le_of_succ_le_succ h) hrest]
  exact hzip _ _ hhalves hf

/-- The checked digits have the values of the plain digits. -/
theorem map_hexValue?_digits (a : Address) :
    a.digits.map Text.hexValue? = (Hex.write a.bytes).map Text.hexValue? :=
  a.map_digits fun c _ half => hexValue?_checked c half

/-- The digits of an address without letters are the plain ones. -/
theorem digits_of_lt (a : Address) (h : ∀ c ∈ Hex.write a.bytes, c.toNat < 97) :
    a.digits = Hex.write a.bytes := by
  have hplain := @map_digits Char id a fun c hc half => checked_of_lt (h c hc) half
  rwa [List.map_id, List.map_id] at hplain

/-- The bytes of an address are read back from its digits. -/
theorem read?_digits (a : Address) : Hex.read? a.digits = some a.bytes := by
  rw [Hex.read?_congr a.map_hexValue?_digits, Hex.read?_write]

/-- An address is read back from its text. -/
theorem ofDigits?_text (a : Address) : ofDigits? (Text.ofString a.text).chars = some a := by
  have hchars : (Text.ofString a.text).chars = '0' :: 'x' :: a.digits := by
    simp [Text.ofString, text]
  simp [ofDigits?, hchars, Hex.dropMark, a.read?_digits, ofBytes?, a.size]

end Address

end BatchFrontier
