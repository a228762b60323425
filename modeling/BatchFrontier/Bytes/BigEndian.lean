import BatchFrontier.Number.Power

/-!
# Numbers as bytes

A natural number is written with its most significant byte first, either on a fixed number of bytes
or on as many as it needs.
-/

namespace BatchFrontier.BigEndian

/-- The last `width` bytes of a number. -/
def ofNat : Nat → Nat → List UInt8
  | 0, _ => []
  | width + 1, n => ofNat width (n / 256) ++ [UInt8.ofNat n]

/-- The number that a byte string stands for. -/
def toNat (bs : List UInt8) : Nat := bs.foldl (fun n b => 256 * n + b.toNat) 0

/-- How many bytes a number needs; zero needs one. -/
def width (n : Nat) : Nat := Nat.log2 n / 8 + 1

/-- A number on as many bytes as it needs. -/
def minimal (n : Nat) : List UInt8 := ofNat (width n) n

@[simp] theorem length_ofNat (width n : Nat) : (ofNat width n).length = width := by
  induction width generalizing n with
  | zero => rfl
  | succ width ih => simp [ofNat, ih]

@[simp] theorem toNat_append_singleton (bs : List UInt8) (b : UInt8) :
    toNat (bs ++ [b]) = 256 * toNat bs + b.toNat := by
  simp [toNat]

/-- Writing and reading on a fixed width keep the number modulo the capacity of that width. -/
theorem toNat_ofNat (width n : Nat) : toNat (ofNat width n) = n % 256 ^ width := by
  induction width generalizing n with
  | zero => simp [ofNat, toNat, Nat.mod_one]
  | succ width ih =>
    simp only [ofNat, toNat_append_singleton, ih, UInt8.toNat_ofNat']
    have h : n % (256 * 256 ^ width) = n % 256 + 256 * (n / 256 % 256 ^ width) := Nat.mod_mul
    have hpow : 256 ^ (width + 1) = 256 * 256 ^ width := by rw [Nat.pow_succ, Nat.mul_comm]
    rw [hpow, h]
    omega

example : minimal 0 = [0] ∧ minimal 255 = [255] ∧ minimal 256 = [1, 0] := by decide +kernel

end BatchFrontier.BigEndian
