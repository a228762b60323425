import BatchFrontier.Proofs.HexSpelling
import BatchFrontier.Root

/-!
# Roots as bytes and as texts

A root is the first word of some bytes, with a warning if there are more of them. A text is read as
the bytes that it stands for, whatever their spelling, and a text that stands for no bytes is
refused before anything else. What was read once is a root of the right length, so it is read again
as it is.
-/

namespace BatchFrontier

namespace Root

/-- The texts that are let through are those that stand for bytes. -/
theorem isPaired_iff {t : Text} : isPaired t.chars = true ↔ ∃ bs, Hex.StandsFor t bs := by
  rw [Hex.exists_standsFor_iff, Text.isHex_iff, ← Text.length_chars, Hex.chars_dropTextMark]
  simp [isPaired]

/-- A text is read as the bytes that it stands for. -/
theorem rawBytes_of_standsFor {t : Text} {bs : List UInt8} (h : Hex.StandsFor t bs) (name : Text) :
    rawBytes name (.text t) = .ok bs := by
  rw [rawBytes, if_pos (isPaired_iff.mpr ⟨bs, h⟩), Value.toBytes, Value.bytesOfText_of_standsFor h]

/-- A text that stands for no bytes is refused. -/
theorem rawBytes_of_not_standsFor {t : Text} (h : ∀ bs, ¬ Hex.StandsFor t bs) (name : Text) :
    rawBytes name (.text t) = .error (.rootDigits name t) := by
  rw [rawBytes, if_neg]
  rintro hpaired
  obtain ⟨bs, hbs⟩ := isPaired_iff.mp hpaired
  exact h bs hbs

section

variable {name : Text} {v : Value} {bs : List UInt8}

/-- A value that stands for bytes is read as they are. -/
theorem ofValue_of_rawBytes (h : rawBytes name v = .ok bs) : ofValue name v = ofBytes name bs := by
  rw [ofValue, h]
  exact Traced.pure_bind _ _

/-- A value that stands for no bytes is refused without a warning. -/
theorem ofValue_of_rawBytes_error {f : Fault} (h : rawBytes name v = .error f) :
    ofValue name v = ⟨[], .error f⟩ := by
  rw [ofValue, h]
  rfl

/-- Too few bytes are refused without a warning. -/
theorem ofBytes_of_lt (h : bs.length < size) :
    ofBytes name bs = ⟨[], .error (.rootLength name bs.length)⟩ := by
  rw [ofBytes, dif_pos h]
  rfl

/-- Of enough bytes the first ones are the root, with a warning if there are more. -/
theorem ofBytes_of_le (name : Text) (h : size ≤ bs.length) : ∃ w : Word, w.bytes = bs.take size ∧
    ofBytes name bs = ⟨if size < bs.length then
      [.logged .warning .calldata (cutWarning name bs.length)] else [], .ok w⟩ := by
  refine ⟨⟨bs.take size, List.length_take_of_le h⟩, rfl, ?_⟩
  rw [ofBytes, dif_neg (Nat.not_lt_of_le h)]
  split
  · rfl
  · rfl

/-- A root that is accepted is the first word of its bytes, of which there are enough. -/
theorem bytes_of_ofValue {w : Word} (h : (ofValue name v).result = .ok w) :
    ∃ raw, rawBytes name v = .ok raw ∧ size ≤ raw.length ∧ w.bytes = raw.take size := by
  cases hraw : rawBytes name v with
  | error f =>
    rw [ofValue_of_rawBytes_error hraw] at h
    cases h
  | ok raw =>
    rw [ofValue_of_rawBytes hraw] at h
    rcases Nat.lt_or_ge raw.length size with hshort | hlong
    · rw [ofBytes_of_lt hshort] at h
      cases h
    · obtain ⟨first, hfirst, hread⟩ := ofBytes_of_le name hlong
      rw [hread] at h
      obtain rfl := Except.ok.inj h
      exact ⟨raw, rfl, hlong, hfirst⟩

end

/-! ## All spellings -/

/-- How the root called `name` is read. -/
structure ReadsRoots (name : Text) : Prop where
  /-- Fewer bytes than a root has are refused with their number, without a warning. -/
  short : ∀ bs, bs.length < 32 →
    ofValue name (.bytes bs) = ⟨[], .error (.rootLength name bs.length)⟩ ∧
      (Fault.rootLength name bs.length).message =
        name ++ " must be 32 bytes, got " ++ Text.natural bs.length
  /-- Of all other bytes the first 32 are the root. There is one warning if there are more. -/
  long : ∀ bs, 32 ≤ bs.length → ∃ w : Word, w.bytes = bs.take 32 ∧
    ofValue name (.bytes bs) = ⟨if 32 < bs.length then
      [.logged .warning .calldata (cutWarning name bs.length)] else [], .ok w⟩
  /-- A text that stands for bytes is read as they are, with the same warning or none. -/
  spelled : ∀ t bs, Hex.StandsFor t bs → ofValue name (.text t) = ofValue name (.bytes bs)
  /-- A text stands for bytes if after one mark or none it has an even number of codes, all of them
  digits. -/
  spelling : ∀ t, (∃ bs, Hex.StandsFor t bs) ↔
    (Hex.dropTextMark t).length % 2 = 0 ∧ (Hex.dropTextMark t).IsHex
  /-- Any other text is refused with the name and the text in quotation marks, without a warning. -/
  unspelled : ∀ t, (∀ bs, ¬ Hex.StandsFor t bs) →
    ofValue name (.text t) = ⟨[], .error (.rootDigits name t)⟩ ∧
      (Fault.rootDigits name t).message =
        name ++ " is not an even-length hex string: " ++ t.quote
  /-- Whatever a root was read from, it has 32 bytes, and it is read again under any name as it is,
  without a warning. -/
  stable : ∀ v w, (ofValue name v).result = .ok w →
    w.bytes.length = 32 ∧ ∀ other, ofValue other (.bytes w.bytes) = ⟨[], .ok w⟩

/-- Bytes and all texts that stand for them are read as the same root, other texts as none. -/
theorem ofValue_readsRoots (name : Text) : ReadsRoots name := by
  have hbytes (other : Text) (bs : List UInt8) :
      ofValue other (.bytes bs) = ofBytes other bs := ofValue_of_rawBytes rfl
  refine ⟨fun bs hshort => ⟨?_, rfl⟩, fun bs hlong => ?_, fun t bs hstands => ?_,
    fun t => Hex.exists_standsFor_iff, fun t hnone => ⟨?_, rfl⟩, fun v w hread => ⟨w.size, ?_⟩⟩
  · rw [hbytes, ofBytes_of_lt hshort]
  · rw [hbytes]
    exact ofBytes_of_le name hlong
  · rw [hbytes, ofValue_of_rawBytes (rawBytes_of_standsFor hstands name)]
  · exact ofValue_of_rawBytes_error (rawBytes_of_not_standsFor hnone name)
  · intro other
    obtain ⟨root, hroot, hagain⟩ := ofBytes_of_le other (Nat.le_of_eq w.size.symm)
    have hwhole : w.bytes.take size = w.bytes := List.take_of_length_le (Nat.le_of_eq w.size)
    have hexact : ¬ size < w.bytes.length := by
      rw [w.size]
      exact Nat.lt_irrefl _
    rw [hwhole] at hroot
    obtain ⟨bytes, hsize⟩ := root
    obtain rfl : bytes = w.bytes := hroot
    rw [hbytes, hagain, if_neg hexact]

end Root

end BatchFrontier
