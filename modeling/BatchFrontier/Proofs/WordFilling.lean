import BatchFrontier.Proofs.WordLayout
import Mathlib.Data.List.Induction

/-!
# The filling of words

A value that needs less than a word stands at the end of its word, and the bytes before it are its
filling. A byte string is read as a sequence of values exactly if it holds a word for each of them
and the filling of every word is zero, whether or not anyone looks at the value.
-/

namespace BatchFrontier

namespace BigEndian

/-- More bytes count less than those before them. -/
theorem toNat_append (as bs : List UInt8) :
    toNat (as ++ bs) = toNat as * 256 ^ bs.length + toNat bs := by
  induction bs using List.reverseRecOn with
  | nil => simp [toNat]
  | append_singleton bs b ih =>
    have hpow : 256 ^ (bs ++ [b]).length = 256 ^ bs.length * 256 := by
      rw [List.length_append, List.length_singleton, Nat.pow_succ]
    rw [← List.append_assoc, toNat_append_singleton, toNat_append_singleton, ih, hpow,
      ← Nat.mul_assoc]
    omega

/-- The number in some bytes fits them. -/
theorem toNat_lt (bs : List UInt8) : toNat bs < 256 ^ bs.length := by
  induction bs using List.reverseRecOn with
  | nil => simp [toNat]
  | append_singleton bs b ih =>
    have hb := b.toNat_lt
    rw [toNat_append_singleton, List.length_append, List.length_singleton, Nat.pow_succ]
    omega

/-- Only zeros stand for zero. -/
theorem toNat_eq_zero_iff {bs : List UInt8} : toNat bs = 0 ↔ ∀ b ∈ bs, b = 0 := by
  induction bs using List.reverseRecOn with
  | nil => simp [toNat]
  | append_singleton bs b ih =>
    have hb : b.toNat = 0 ↔ b = 0 := by
      rw [← UInt8.toNat_inj]
      rfl
    simp only [toNat_append_singleton, List.mem_append, List.mem_singleton, or_imp,
      forall_and, forall_eq, ← ih, ← hb]
    omega

/-- The number in some bytes fits the last `n` of them exactly if all others are zero. -/
theorem toNat_lt_pow_iff {bs : List UInt8} {n : Nat} (h : n ≤ bs.length) :
    toNat bs < 256 ^ n ↔ ∀ b ∈ bs.take (bs.length - n), b = 0 := by
  have hlast : (bs.drop (bs.length - n)).length = n := by
    rw [List.length_drop]
    omega
  have hsplit := toNat_append (bs.take (bs.length - n)) (bs.drop (bs.length - n))
  rw [List.take_append_drop, hlast] at hsplit
  have hfits := toNat_lt (bs.drop (bs.length - n))
  rw [hlast] at hfits
  rw [← toNat_eq_zero_iff]
  constructor
  · intro hlt
    by_contra hne
    have hone : 1 ≤ toNat (bs.take (bs.length - n)) := Nat.one_le_iff_ne_zero.mpr hne
    have hle : 1 * 256 ^ n ≤ toNat (bs.take (bs.length - n)) * 256 ^ n :=
      Nat.mul_le_mul_right _ hone
    omega
  · intro hzero
    rw [hsplit, hzero]
    omega

end BigEndian

namespace Abi

/-- The number of bytes of filling in the word of a value. -/
def Kind.filling : Kind → Nat
  | .uint bits => 32 - bits / 8
  | .address => 12
  | _ => 0

/-- Whether each value of a type takes one word, and whole bytes of it. -/
def Kind.TakesWord : Kind → Prop
  | .uint bits => bits % 8 = 0 ∧ bits ≤ 256
  | .words _ => False
  | _ => True

/-- A word is read as an unsigned integer of some bits exactly if its number has no more. -/
theorem decode_uint_isSome_iff (bits : Nat) (bs : List UInt8) :
    (decode (.uint bits) bs).isSome = true ↔
      bs.length = 32 ∧ BigEndian.toNat bs < 2 ^ bits := by
  by_cases hsize : bs.length = 32
  · by_cases hlt : BigEndian.toNat bs < 2 ^ bits <;> simp [decode, Kind.size, hsize, hlt]
  · simp [decode, Kind.size, hsize]

/-- A word is read exactly if its filling is zero. -/
theorem decode_isSome_iff {k : Kind} (hk : k.TakesWord) (bs : List UInt8) :
    (decode k bs).isSome = true ↔ bs.length = 32 ∧ ∀ b ∈ bs.take k.filling, b = 0 := by
  by_cases hsize : bs.length = 32
  · cases k with
    | uint bits =>
      obtain ⟨hwhole, hfits⟩ := hk
      have hpow : 2 ^ bits = 256 ^ (bits / 8) := by
        have hbits : bits = 8 * (bits / 8) := by omega
        calc 2 ^ bits = 2 ^ (8 * (bits / 8)) := by rw [← hbits]
          _ = 256 ^ (bits / 8) := Nat.pow_mul 2 8 (bits / 8)
      have hroom : bits / 8 ≤ bs.length := by omega
      have hzeros := BigEndian.toNat_lt_pow_iff hroom
      rw [hsize, ← hpow] at hzeros
      rw [decode_uint_isSome_iff, hzeros]
      rfl
    | address =>
      have hrest : (bs.drop 12).length = 20 := by
        rw [List.length_drop]
        omega
      have hall : (bs.take 12).all (· == 0) = true ↔
          ∀ b ∈ bs.take Kind.address.filling, b = 0 := by
        rw [Kind.filling]
        simp
      by_cases hzeros : (bs.take 12).all (· == 0) = true
      · have hsome : (decode .address bs).isSome = true := by
          simp [decode, Kind.size, hsize, hzeros, Address.ofBytes?, hrest]
        exact ⟨fun _ => ⟨hsize, hall.mp hzeros⟩, fun _ => hsome⟩
      · have hnone : decode .address bs = none := by
          simp only [decode, Kind.size, hsize, hzeros]
          rfl
        rw [hnone]
        simp only [Option.isSome_none, Bool.false_eq_true, false_iff, not_and]
        intro _ h
        exact hzeros (hall.mpr h)
    | bytes32 => simp [decode, Kind.size, Kind.filling, hsize]
    | words count => exact hk.elim
  · have hwidth : k.size = 32 := by
      cases k with
      | words count => exact hk.elim
      | _ => rfl
    simp [decode, hwidth, hsize]

/-- That a byte string holds a word for each type, and the filling of each word is zero. -/
structure Filled (kinds : List Kind) (bs : List UInt8) : Prop where
  size : 32 * kinds.length ≤ bs.length
  zeros : ∀ (i : Nat) (k : Kind), kinds[i]? = some k →
    ∀ b ∈ (bs.drop (32 * i)).take k.filling, b = 0

/-- The filling is inside the word. -/
theorem Kind.filling_le (k : Kind) : k.filling ≤ 32 := by
  cases k with
  | uint bits => exact Nat.sub_le _ _
  | address => decide
  | bytes32 => exact Nat.zero_le _
  | words count => exact Nat.zero_le _

/-- The words of some types are filled exactly if the first is and the others are behind it. -/
theorem filled_cons_iff {k : Kind} {kinds : List Kind} {bs : List UInt8} :
    Filled (k :: kinds) bs ↔
      ((bs.take 32).length = 32 ∧ ∀ b ∈ (bs.take 32).take k.filling, b = 0) ∧
        Filled kinds (bs.drop 32) := by
  have hfront : (bs.take 32).take k.filling = bs.take k.filling := by
    rw [List.take_take, Nat.min_eq_left k.filling_le]
  have hback (i : Nat) : (bs.drop 32).drop (32 * i) = bs.drop (32 * (i + 1)) := by
    rw [List.drop_drop]
    congr 1
    omega
  rw [hfront]
  constructor
  · rintro ⟨hsize, hzeros⟩
    rw [List.length_cons] at hsize
    refine ⟨⟨?_, ?_⟩, ?_, ?_⟩
    · rw [List.length_take]
      omega
    · simpa using hzeros 0 k rfl
    · rw [List.length_drop]
      omega
    · intro i k' hk'
      rw [hback]
      exact hzeros (i + 1) k' (by simpa using hk')
  · rintro ⟨⟨hword, hzero⟩, hsize, hzeros⟩
    rw [List.length_take] at hword
    rw [List.length_drop] at hsize
    refine ⟨?_, ?_⟩
    · rw [List.length_cons]
      omega
    · intro i k' hk'
      cases i with
      | zero =>
        obtain rfl : k = k' := by simpa using hk'
        simpa using hzero
      | succ i =>
        rw [← hback]
        exact hzeros i k' (by simpa using hk')

/-- A sequence of values is read exactly if the first is and the others are. -/
theorem decodeAll_cons_isSome_iff (k : Kind) (kinds : List Kind) (bs : List UInt8) :
    (decodeAll (k :: kinds) bs).isSome = true ↔
      (decode k (bs.take k.size)).isSome = true ∧
        (decodeAll kinds (bs.drop k.size)).isSome = true := by
  rw [decodeAll]
  cases decode k (bs.take k.size) with
  | none => simp
  | some v => cases decodeAll kinds (bs.drop k.size) <;> simp

/-- A byte string is read exactly if its words are there and their filling is zero. -/
theorem decodeAll_isSome_iff {kinds : List Kind} (hkinds : ∀ k ∈ kinds, k.TakesWord)
    (bs : List UInt8) : (decodeAll kinds bs).isSome = true ↔ Filled kinds bs := by
  induction kinds generalizing bs with
  | nil =>
    have hfilled : Filled [] bs := ⟨Nat.zero_le _, fun i k hk => by simp at hk⟩
    simp [decodeAll, hfilled]
  | cons k kinds ih =>
    have hk := hkinds k List.mem_cons_self
    have hwidth : k.size = 32 := by
      cases k with
      | words count => exact hk.elim
      | _ => rfl
    have hrest := ih (fun k' hk' => hkinds k' (List.mem_cons_of_mem k hk')) (bs.drop 32)
    rw [filled_cons_iff, ← decode_isSome_iff hk, ← hrest, decodeAll_cons_isSome_iff, hwidth]

end Abi

end BatchFrontier
