/-!
# The Keccak-256 digest

The sponge over 1600 bits with a rate of 136 bytes and the padding that starts with a one byte. The
state has five rows of five lanes each; a lane stands in a column `x` and a row `y`.
-/

namespace BatchFrontier.Keccak

/-- A row of lanes, one for each column. -/
structure Row where
  a : UInt64
  b : UInt64
  c : UInt64
  d : UInt64
  e : UInt64
  deriving DecidableEq, Repr

/-- All lanes, row by row. -/
structure Lanes where
  first : Row
  second : Row
  third : Row
  fourth : Row
  fifth : Row
  deriving DecidableEq, Repr

/-- Turns the bits of a lane to the left. -/
def turn (n : UInt64) (a : UInt64) : UInt64 := (a <<< n) ||| (a >>> (64 - n))

/-- What is added to the first lane in each round. -/
def roundConstants : List UInt64 :=
  [0x0000000000000001, 0x0000000000008082, 0x800000000000808A, 0x8000000080008000,
   0x000000000000808B, 0x0000000080000001, 0x8000000080008081, 0x8000000000008009,
   0x000000000000008A, 0x0000000000000088, 0x0000000080008009, 0x000000008000000A,
   0x000000008000808B, 0x800000000000008B, 0x8000000000008089, 0x8000000000008003,
   0x8000000000008002, 0x8000000000000080, 0x000000000000800A, 0x800000008000000A,
   0x8000000080008081, 0x8000000000008080, 0x0000000080000001, 0x8000000080008008]

namespace Row

/-- Adds two rows lane by lane. -/
def add (r s : Row) : Row := ⟨r.a ^^^ s.a, r.b ^^^ s.b, r.c ^^^ s.c, r.d ^^^ s.d, r.e ^^^ s.e⟩

/-- For each column the parities of its two neighbours, the latter turned by one bit. -/
def neighbours : Row → Row
  | ⟨a, b, c, d, e⟩ =>
    ⟨e ^^^ turn 1 b, a ^^^ turn 1 c, b ^^^ turn 1 d, c ^^^ turn 1 e, d ^^^ turn 1 a⟩

/-- Combines each lane with the two that follow it in the row. -/
def mix : Row → Row
  | ⟨a, b, c, d, e⟩ =>
    ⟨a ^^^ (~~~b &&& c), b ^^^ (~~~c &&& d), c ^^^ (~~~d &&& e), d ^^^ (~~~e &&& a),
      e ^^^ (~~~a &&& b)⟩

end Row

namespace Lanes

/-- Adds two states lane by lane. -/
def add (s t : Lanes) : Lanes :=
  ⟨s.first.add t.first, s.second.add t.second, s.third.add t.third, s.fourth.add t.fourth,
    s.fifth.add t.fifth⟩

/-- Adds to each lane the parities of two neighbouring columns. -/
def mixColumns (s : Lanes) : Lanes :=
  let parity := (((s.first.add s.second).add s.third).add s.fourth).add s.fifth
  let change := parity.neighbours
  s.add ⟨change, change, change, change, change⟩

/-- Turns each lane, by an amount of its own, and moves it from column `x` and row `y` to column `y`
and row `2 * x + 3 * y`. -/
def shuffle : Lanes → Lanes
  | ⟨⟨a₀, b₀, c₀, d₀, e₀⟩, ⟨a₁, b₁, c₁, d₁, e₁⟩, ⟨a₂, b₂, c₂, d₂, e₂⟩, ⟨a₃, b₃, c₃, d₃, e₃⟩,
      ⟨a₄, b₄, c₄, d₄, e₄⟩⟩ =>
    ⟨⟨a₀, turn 44 b₁, turn 43 c₂, turn 21 d₃, turn 14 e₄⟩,
      ⟨turn 28 d₀, turn 20 e₁, turn 3 a₂, turn 45 b₃, turn 61 c₄⟩,
      ⟨turn 1 b₀, turn 6 c₁, turn 25 d₂, turn 8 e₃, turn 18 a₄⟩,
      ⟨turn 27 e₀, turn 36 a₁, turn 10 b₂, turn 15 c₃, turn 56 d₄⟩,
      ⟨turn 62 c₀, turn 55 d₁, turn 39 e₂, turn 41 a₃, turn 2 b₄⟩⟩

/-- Combines the lanes within each row. -/
def mixRows (s : Lanes) : Lanes :=
  ⟨s.first.mix, s.second.mix, s.third.mix, s.fourth.mix, s.fifth.mix⟩

/-- Adds a constant to the first lane. -/
def addConstant (s : Lanes) (c : UInt64) : Lanes :=
  { s with first := { s.first with a := s.first.a ^^^ c } }

/-- One round. -/
def round (s : Lanes) (c : UInt64) : Lanes := s.mixColumns.shuffle.mixRows.addConstant c

/-- All rounds. -/
def permute (s : Lanes) : Lanes := roundConstants.foldl round s

end Lanes

/-- The lane written in eight bytes, least significant first. -/
def laneOfBytes (bs : List UInt8) : UInt64 :=
  bs.foldr (fun b a => (a <<< 8) ||| b.toUInt64) 0

/-- The lowest `n` bytes of a lane, least significant first. -/
def bytesOfLane : Nat → UInt64 → List UInt8
  | 0, _ => []
  | n + 1, a => a.toUInt8 :: bytesOfLane n (a >>> 8)

/-- The row that is written in the first 40 bytes; bytes that are missing are zero. -/
def Row.ofBytes (bs : List UInt8) : Row :=
  let lane (x : Nat) := laneOfBytes ((bs.drop (8 * x)).take 8)
  ⟨lane 0, lane 1, lane 2, lane 3, lane 4⟩

/-- The lanes that are written in the first 200 bytes; bytes that are missing are zero. -/
def Lanes.ofBytes (bs : List UInt8) : Lanes :=
  let row (y : Nat) := Row.ofBytes (bs.drop (40 * y))
  ⟨row 0, row 1, row 2, row 3, row 4⟩

/-- The number of bytes taken up at a time. -/
def rate : Nat := 136

/-- The bytes that fill a message up to a multiple of the rate. -/
def padding (size : Nat) : List UInt8 :=
  let gap := rate - size % rate
  if gap = 1 then [0x81] else 0x01 :: List.replicate (gap - 2) 0 ++ [0x80]

/-- Takes up a number of blocks, one after the other. -/
def absorb : Nat → Lanes → List UInt8 → Lanes
  | 0, s, _ => s
  | n + 1, s, bs => absorb n (s.add (.ofBytes (bs.take rate))).permute (bs.drop rate)

/-- The digest of a byte string, 32 bytes. -/
def digest (bs : List UInt8) : List UInt8 :=
  let padded := bs ++ padding bs.length
  let row := (absorb (padded.length / rate) (.ofBytes []) padded).first
  [row.a, row.b, row.c, row.d].flatMap (bytesOfLane 8)

/-- A digest has 32 bytes. -/
theorem length_digest (bs : List UInt8) : (digest bs).length = 32 := by
  have h (a : UInt64) : (bytesOfLane 8 a).length = 8 := rfl
  simp only [digest, List.length_flatMap, h]
  rfl

example : (digest []).take 4 = [0xC5, 0xD2, 0x46, 0x01] := by decide +kernel

end BatchFrontier.Keccak
