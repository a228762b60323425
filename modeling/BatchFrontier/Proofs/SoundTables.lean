import BatchFrontier.Proofs.CommandOutcome
import BatchFrontier.Proofs.DecimalDigits
import BatchFrontier.Proofs.RangeTable
import Mathlib.Algebra.Order.Field.Rat
import Mathlib.Data.Rat.Cast.Order
import Mathlib.Tactic.FieldSimp
import Mathlib.Tactic.Linarith

/-!
# Sound tables

A table is sound if no key stands in two of its rows and every row has an end. The key of a cell is
what the cell is worth: numbers are one key if they are equal as numbers, whether they are stored as
integers or not, and a null has no key. Writing a row keeps a table sound, because it changes the
row with its key if there is one, and no key of a row is ever changed.
-/

namespace BatchFrontier

namespace Binary64

/-- Two to a power is the quotient of its numerator and its denominator. -/
theorem powerOfTwo_spec (e : Int) :
    0 < (powerOfTwo e).2 ∧ (2 : ℚ) ^ e = (powerOfTwo e).1 / (powerOfTwo e).2 := by
  unfold powerOfTwo
  split
  · next he =>
    obtain ⟨k, rfl⟩ := Int.eq_ofNat_of_zero_le he
    exact ⟨Nat.one_pos, by simp⟩
  · next he =>
    obtain ⟨k, rfl⟩ : ∃ k : ℕ, e = -k := ⟨(-e).toNat, by omega⟩
    exact ⟨Nat.two_pow_pos _, by simp⟩

/-- A number without a fraction is cut off to itself. -/
theorem truncate_of_eq {s : Bool} {m : Nat} {e n : Int} (h : (signed s m * 2 ^ e : ℚ) = n) :
    truncate s m e = n := by
  obtain ⟨hpositive, hpower⟩ := powerOfTwo_spec e
  unfold truncate
  simp only
  generalize (powerOfTwo e).1 = num at *
  generalize (powerOfTwo e).2 = den at *
  have hden : (den : ℚ) ≠ 0 := by exact_mod_cast hpositive.ne'
  have hscaled : signed s m * num = n * den := by
    have hscaled : (signed s m * num : ℚ) = n * den := by
      rw [← h, hpower]
      field_simp
    exact_mod_cast hscaled
  have hden : (den : ℤ) ≠ 0 := by exact_mod_cast hpositive.ne'
  cases s with
  | false =>
    have hsize : (m * num : ℤ) = n * den := hscaled
    rw [signed, if_neg Bool.false_ne_true, Int.natCast_ediv, Int.natCast_mul, hsize,
      Int.mul_ediv_cancel _ hden]
  | true =>
    have hsize : (m * num : ℤ) = -n * den := by
      simp only [signed, if_true] at hscaled
      linarith
    rw [signed, if_pos rfl, Int.natCast_ediv, Int.natCast_mul, hsize, Int.mul_ediv_cancel _ hden,
      neg_neg]

end Binary64

namespace Store

/-! ## Keys -/

/-- What a cell is worth as a key. -/
inductive Key where
  | number (q : ℚ)
  | infinite (negative : Bool)
  | text (bytes : List UInt8)
  | blob (bytes : List UInt8)
  deriving DecidableEq

namespace Cell

/-- The key of a cell; a null has none. No undefined number is ever stored; it would be compared as
the positive infinity. -/
def key? : Cell → Option Key
  | .null => none
  | .integer n => some (.number n)
  | .real (.finite s m e) => some (.number (Binary64.signed s m * 2 ^ e))
  | .real (.infinite s) => some (.infinite s)
  | .real .undefined => some (.infinite false)
  | .text s => some (.text (Utf8.encode s.toList))
  | .blob bs => some (.blob bs)

/-- Two multiples of powers of two are compared over the lower of the two powers. -/
theorem scaled_eq_iff (m n e f : ℤ) :
    m * 2 ^ (e - min e f).toNat = n * 2 ^ (f - min e f).toNat ↔ (m * 2 ^ e : ℚ) = n * 2 ^ f := by
  have htwo : (2 : ℚ) ≠ 0 := by norm_num
  have hsplit (a b : ℤ) (hb : min e f ≤ b) :
      ((a * 2 ^ (b - min e f).toNat : ℤ) : ℚ) * 2 ^ min e f = a * 2 ^ b := by
    have hexponent : ((b - min e f).toNat : ℤ) + min e f = b := by omega
    rw [Int.cast_mul, Int.cast_pow, Int.cast_ofNat, mul_assoc, ← zpow_natCast, ← zpow_add₀ htwo,
      hexponent]
  have hlow : (2 : ℚ) ^ min e f ≠ 0 := zpow_ne_zero _ htwo
  rw [← hsplit m e (min_le_left e f), ← hsplit n f (min_le_right e f), mul_left_inj' hlow,
    Int.cast_inj]

theorem compareBytes_eq_iff (a b : List UInt8) : compareBytes a b = .eq ↔ a = b := by
  induction a generalizing b with
  | nil => cases b <;> simp [compareBytes]
  | cons x a ih =>
    cases b with
    | nil => simp [compareBytes]
    | cons y b => simp [compareBytes, Ordering.then_eq_eq, ih, UInt8.toNat_inj]

/-- The key of a multiple of a power of two. -/
theorem key?_of_scaled? {a : Cell} {m e : Int} (h : a.scaled? = some (m, e)) :
    a.key? = some (.number (m * 2 ^ e)) := by
  unfold scaled? at h
  split at h
  · obtain ⟨rfl, rfl⟩ := Prod.mk.inj (Option.some.inj h)
    simp [key?]
  · obtain ⟨rfl, rfl⟩ := Prod.mk.inj (Option.some.inj h)
    rfl
  · cases h

/-- The key of a number that is no multiple of a power of two. -/
theorem key?_of_scaled?_eq_none {a : Cell} (ha : a.rank = 1) (h : a.scaled? = none) :
    a.key? = some (.infinite (compareNumbers.isLow a)) := by
  cases a with
  | integer n => cases h
  | real x =>
    cases x with
    | finite s m e => cases h
    | infinite s => rfl
    | undefined => rfl
  | _ => cases ha

/-- Numbers are equal to the store if they have the same key. -/
theorem compareNumbers_eq_iff {a b : Cell} (ha : a.rank = 1) (hb : b.rank = 1) :
    compareNumbers a b = .eq ↔ a.key? = b.key? := by
  unfold compareNumbers
  cases hsa : a.scaled? with
  | none =>
    rw [key?_of_scaled?_eq_none ha hsa]
    cases hsb : b.scaled? with
    | none =>
      rw [key?_of_scaled?_eq_none hb hsb]
      simp only [compare_eq_iff_eq, Option.some.injEq, Key.infinite.injEq]
      exact eq_comm
    | some scaled =>
      rw [key?_of_scaled? hsb]
      cases compareNumbers.isLow a <;> simp
  | some scaled =>
    obtain ⟨m, e⟩ := scaled
    rw [key?_of_scaled? hsa]
    cases hsb : b.scaled? with
    | none =>
      rw [key?_of_scaled?_eq_none hb hsb]
      cases compareNumbers.isLow b <;> simp
    | some scaled' =>
      obtain ⟨n, f⟩ := scaled'
      rw [key?_of_scaled? hsb]
      simp only [compare_eq_iff_eq, scaled_eq_iff, Option.some.injEq, Key.number.injEq]

/-- The store takes two cells for the same key if they have one and it is the same. -/
theorem isSame_iff (a b : Cell) : a.isSame b = true ↔ ∃ k, a.key? = some k ∧ b.key? = some k := by
  have hnumbers (ha : a.rank = 1) (hb : b.rank = 1) :
      a.isSame b = true ↔ ∃ k, a.key? = some k ∧ b.key? = some k := by
    have hkey : ∃ k, a.key? = some k := by
      cases hsa : a.scaled? with
      | none => exact ⟨_, key?_of_scaled?_eq_none ha hsa⟩
      | some scaled => exact ⟨_, key?_of_scaled? hsa⟩
    obtain ⟨k, hk⟩ := hkey
    have horder : a.order b = compareNumbers a b := by
      have hboth : a.rank = b.rank ∧ a.rank = 1 := ⟨ha.trans hb.symm, ha⟩
      unfold order
      split
      · cases ha
      · cases ha
      · exact if_pos hboth
    have hsame : a.isSame b = true ↔ a.key? = b.key? := by
      rw [← compareNumbers_eq_iff ha hb, isSame, horder, ha]
      simp
    rw [hsame, hk]
    simp [eq_comm]
  cases a with
  | null => simp [isSame, rank, key?]
  | integer n =>
    cases b with
    | integer m => exact hnumbers rfl rfl
    | real y => exact hnumbers rfl rfl
    | _ => simp [isSame, order, rank, key?]
  | real x =>
    cases b with
    | integer m => exact hnumbers rfl rfl
    | real y => exact hnumbers rfl rfl
    | _ => cases x <;> simp [isSame, order, rank, key?]
  | text s =>
    cases b with
    | real y => cases y <;> simp [isSame, order, rank, key?]
    | text t => simpa [isSame, order, rank, key?, compareBytes_eq_iff] using eq_comm
    | _ => simp [isSame, order, rank, key?]
  | blob bs =>
    cases b with
    | real y => cases y <;> simp [isSame, order, rank, key?]
    | blob cs => simpa [isSame, order, rank, key?, compareBytes_eq_iff] using eq_comm
    | _ => simp [isSame, order, rank, key?]

/-- A cell with the key of an integer is read as that integer. -/
theorem toInteger_of_key? {cell : Cell} {n : Int} (h : cell.key? = some (.number n)) :
    cell.toValue.toInteger = .ok n := by
  cases cell with
  | integer m =>
    have hm : (m : ℚ) = n := Key.number.inj (Option.some.inj h)
    rw [Int.cast_inj.mp hm]
    rfl
  | real x =>
    cases x with
    | finite s m e =>
      have hvalue : (Binary64.signed s m * 2 ^ e : ℚ) = n := Key.number.inj (Option.some.inj h)
      exact congrArg Except.ok (Binary64.truncate_of_eq hvalue)
    | infinite s => cases h
    | undefined => cases h
  | null => cases h
  | text s => cases h
  | blob bs => cases h

/-- The decimal text of an integer of 64 bits is stored as the integer. -/
theorem ofText_integer {n : Int} (h : fits n = true) : ofText (Text.integer n) = .integer n := by
  have hwhole : (⟨decide (n < 0), Nat.toDigits 10 n.natAbs, [], none⟩ : Numeral).wholeValue =
      n := by
    simp only [Numeral.wholeValue, Numeral.digitsValue_toDigits, decide_eq_true_eq]
    split <;> omega
  rw [ofText, Numeral.read?_integer]
  simp only [Numeral.isWhole, hwhole, h, Option.isNone_none, and_self, if_true]

end Cell

/-! ## Tables -/

namespace Table

/-- The keys of a table. -/
def keys (t : Table) : List Key := t.rows.filterMap fun r => r.first.key?

/-- That no key of a table stands in two rows, and every row has an end. -/
structure IsSound (t : Table) : Prop where
  nodup : t.keys.Nodup
  ended : ∀ r ∈ t.rows, r.last ≠ .null

/-- A row that is found under a cell has the key of the cell. -/
theorem isSame_of_find? {t : Table} {cell : Cell} {r : Row} (h : t.find? cell = some r) :
    cell.isSame r.first = true := by
  unfold find? at h
  simpa using List.find?_some h

/-- A key of a table is found. -/
theorem isSome_find?_of_mem {t : Table} {cell : Cell} {k : Key} (hcell : cell.key? = some k)
    (hmem : k ∈ t.keys) : (t.find? cell).isSome = true := by
  obtain ⟨r, hr, hfirst⟩ := List.mem_filterMap.mp hmem
  exact List.find?_isSome.mpr ⟨r, hr, (Cell.isSame_iff _ _).mpr ⟨k, hcell, hfirst⟩⟩

/-- A row keeps its first column when it is updated. -/
theorem first_updated (t : Table) (row written : Row) :
    (t.updated row written).first = row.first := by
  unfold updated
  split <;> rfl

/-- Writing a row that a table has changes no key. -/
theorem keys_upsert_of_isSome {t : Table} {row : Row} (h : (t.find? row.first).isSome = true) :
    (t.upsert row).keys = t.keys := by
  rw [upsert, if_pos h, keys, keys, List.filterMap_map]
  congr 1
  funext r
  simp only [Function.comp_apply]
  split
  · rw [first_updated]
  · rfl

/-- Writing a row keeps a table sound, if the row has an end. -/
theorem IsSound.upsert {t : Table} (h : t.IsSound) {row : Row} (hrow : row.last ≠ .null) :
    (t.upsert row).IsSound := by
  cases hfound : (t.find? row.first).isSome with
  | true =>
    refine ⟨by rw [keys_upsert_of_isSome hfound]; exact h.nodup, ?_⟩
    intro r hr
    rw [Table.upsert, if_pos hfound] at hr
    obtain ⟨stored, hstored, rfl⟩ := List.mem_map.mp hr
    have hkept : stored.last ≠ .null := h.ended stored hstored
    split
    · unfold updated
      split
      · exact hkept
      · exact hrow
    · exact hkept
  | false =>
    have hrows : (t.upsert row).rows = t.rows ++ [row] := by
      rw [Table.upsert, if_neg (by simp [hfound])]
    refine ⟨?_, ?_⟩
    · rw [keys, hrows, List.filterMap_append]
      refine List.nodup_append.mpr ⟨h.nodup, ?_, ?_⟩
      · cases hkey : row.first.key? <;> simp [hkey]
      · intro k hk k' hk' heq
        subst heq
        have hkey : row.first.key? = some k := by simpa using hk'
        have hsome := isSome_find?_of_mem hkey hk
        rw [hfound] at hsome
        exact Bool.false_ne_true hsome
    · intro r hr
      rw [hrows, List.mem_append] at hr
      rcases hr with hold | hnew
      · exact h.ended r hold
      · obtain rfl := List.mem_singleton.mp hnew
        exact hrow

/-- The end that is found under a key after a row with the key was written. -/
def kept (t : Table) (key last : Cell) : Cell :=
  if t.hidesWritten then ((t.find? key).map Row.last).getD last else last

/-- The row that is found after it was written: what was written, or the row that was there with
what was written to it. -/
theorem find?_upsert (t : Table) {row : Row} {k : Key} (hkey : row.first.key? = some k) :
    (t.upsert row).find? row.first =
      some ((t.find? row.first).elim row fun stored => t.updated stored row) := by
  cases hfound : t.find? row.first with
  | some stored =>
    have hstored := isSame_of_find? hfound
    have hfirst : ((fun r : Row => row.first.isSame r.first) ∘ fun r =>
        if row.first.isSame r.first then t.updated r row else r) =
        fun r => row.first.isSame r.first := by
      funext r
      simp only [Function.comp_apply]
      split
      · rw [first_updated]
      · rfl
    rw [upsert, hfound, Option.isSome_some, if_pos rfl, find?, List.find?_map, hfirst, ← find?,
      hfound, Option.map_some, if_pos hstored, Option.elim_some]
  | none =>
    have hwritten : row.first.isSame row.first = true := (Cell.isSame_iff _ _).mpr ⟨k, hkey, hkey⟩
    rw [upsert, hfound, Option.isSome_none, if_neg Bool.false_ne_true, find?, List.find?_append,
      ← find?, hfound, Option.none_or, List.find?_singleton, if_pos hwritten, Option.elim_none]

/-- Under a key that was written stands a row with the key and the end that is kept. -/
theorem exists_find?_upsert (t : Table) {key : Cell} (last : Cell) {k : Key}
    (hkey : key.key? = some k) :
    ∃ r, (t.upsert ⟨key, last⟩).find? key = some r ∧ r.first.key? = some k ∧
      r.last = t.kept key last := by
  have hfind := @find?_upsert t ⟨key, last⟩ k hkey
  refine ⟨_, hfind, ?_⟩
  unfold kept
  cases hfound : t.find? key with
  | none => exact ⟨hkey, by simp⟩
  | some stored =>
    obtain ⟨k', hk', hstored⟩ := (Cell.isSame_iff _ _).mp (isSame_of_find? hfound)
    have hsame : stored.first.key? = some k := hstored.trans (hk'.symm.trans hkey)
    unfold updated
    cases t.hidesWritten with
    | true => exact ⟨hsame, rfl⟩
    | false => exact ⟨hsame, rfl⟩

end Table

/-! ## Databases -/

namespace Database

variable {d d' : Database} {known : List String} {n : TableName} {s : Schema} {t : Table}

/-- That all tables of a database are sound. -/
def IsSound (d : Database) : Prop := ∀ s, ∀ t ∈ d.tables s, t.IsSound

theorem isSound_empty : empty.IsSound := by
  intro s t ht
  cases s <;> exact absurd ht List.not_mem_nil

theorem tables_withTables (d : Database) (s : Schema) (ts : List Table) (s' : Schema) :
    (d.withTables s ts).tables s' = if s' = s then ts else d.tables s' := by
  cases s <;> cases s' <;> rfl

/-- Replacing the tables of a schema by sound ones keeps a database sound. -/
theorem IsSound.withTables (h : d.IsSound) {ts : List Table} (hts : ∀ t ∈ ts, t.IsSound) :
    (d.withTables s ts).IsSound := by
  intro s' t ht
  rw [tables_withTables] at ht
  split at ht
  · exact hts t ht
  · exact h s' t ht

/-- Making a table keeps a database sound. -/
theorem IsSound.create (h : d.IsSound) (hmade : d.create n = .ok d') : d'.IsSound := by
  obtain ⟨s, -, hmade⟩ := bind_eq_ok_iff.mp hmade
  split at hmade
  · cases hmade
  · split at hmade
    · obtain rfl := Except.ok.inj hmade
      exact h
    · obtain rfl := Except.ok.inj hmade
      refine h.withTables fun t ht => ?_
      rcases List.mem_append.mp ht with hold | hnew
      · exact h s t hold
      · obtain rfl := List.mem_singleton.mp hnew
        exact ⟨List.nodup_nil, fun r hr => absurd hr List.not_mem_nil⟩

/-- A row with an end keeps a database sound wherever it is written. -/
theorem IsSound.withRow (h : d.IsSound) {row : Row} (hrow : row.last ≠ .null) :
    (d.withRow s t row).IsSound := by
  refine h.withTables fun u hu => ?_
  obtain ⟨v, hv, rfl⟩ := List.mem_map.mp hu
  have hsound := h s v hv
  split
  · exact hsound.upsert hrow
  · exact hsound

/-- A row that was written has an end, and stands in a table that can be written to. -/
theorem exists_withRow_of_upsert {row : Row} (h : d.upsert known n row = .ok d') :
    ∃ s t, d.writable known n = .ok (s, t) ∧ row.last ≠ .null ∧ d' = d.withRow s t row := by
  obtain ⟨⟨s, t⟩, hwritable, h⟩ := bind_eq_ok_iff.mp h
  simp only at h
  split at h
  · cases h
  · next hlast => exact ⟨s, t, hwritable, hlast, (Except.ok.inj h).symm⟩

/-- A command that writes a row and was run has written its two parameters. -/
theorem exists_withRow_of_run {cells : List Cell} {rows : List Row}
    (h : d.run known ⟨.upsert, n⟩ cells = .ok (d', rows)) :
    ∃ first last s t, cells = [first, last] ∧ d.writable known n = .ok (s, t) ∧ last ≠ .null ∧
      d' = d.withRow s t ⟨first, last⟩ := by
  unfold Database.run at h
  split at h
  · next hverb => cases hverb
  · next first last _ =>
    obtain ⟨e, hwritten, he⟩ := map_eq_ok_iff.mp h
    obtain rfl : e = d' := congrArg Prod.fst he
    obtain ⟨s, t, hwritable, hlast, hrow⟩ := exists_withRow_of_upsert hwritten
    exact ⟨first, last, s, t, rfl, hwritable, hlast, hrow⟩
  · next hverb => cases hverb
  · next hverb => cases hverb
  · cases h

/-- A command that looks a row up changes nothing. -/
theorem eq_of_run_find {cells : List Cell} {rows : List Row}
    (h : d.run known ⟨.find, n⟩ cells = .ok (d', rows)) : d' = d := by
  unfold Database.run at h
  split at h
  · next hverb => cases hverb
  · next hverb => cases hverb
  · obtain ⟨t, -, he⟩ := map_eq_ok_iff.mp h
    exact (congrArg Prod.fst he).symm
  · next hverb => cases hverb
  · cases h

/-- A command keeps a database sound. -/
theorem IsSound.run (h : d.IsSound) {command : Command} {cells : List Cell} {rows : List Row}
    (hrun : d.run known command cells = .ok (d', rows)) : d'.IsSound := by
  unfold Database.run at hrun
  split at hrun
  · obtain ⟨e, hmade, he⟩ := map_eq_ok_iff.mp hrun
    obtain rfl : e = d' := congrArg Prod.fst he
    exact h.create hmade
  · obtain ⟨e, hwritten, he⟩ := map_eq_ok_iff.mp hrun
    obtain rfl : e = d' := congrArg Prod.fst he
    obtain ⟨s, t, -, hlast, rfl⟩ := exists_withRow_of_upsert hwritten
    exact h.withRow hlast
  · obtain ⟨t, -, he⟩ := map_eq_ok_iff.mp hrun
    obtain rfl : d = d' := congrArg Prod.fst he
    exact h
  · obtain ⟨t, -, he⟩ := map_eq_ok_iff.mp hrun
    obtain rfl : d = d' := congrArg Prod.fst he
    exact h
  · cases hrun

/-- The table of a name after a row was written. -/
theorem tableIn?_withRow (d : Database) (s : Schema) (t : Table) (row : Row) (s' : Schema)
    (name : String) : (d.withRow s t row).tableIn? s' name =
      (d.tableIn? s' name).map fun u => if s' = s ∧ u.name = t.name then u.upsert row else u := by
  have hname (u : Table) : (u.upsert row).name = u.name := by
    unfold Table.upsert
    split <;> rfl
  have hnamed : (isNamed name ∘ fun u => if u.name = t.name then u.upsert row else u) =
      isNamed name := by
    funext u
    simp only [Function.comp_apply, isNamed]
    split
    · rw [hname]
    · rfl
  rw [tableIn?, Database.withRow, tables_withTables]
  by_cases hs : s' = s
  · subst hs
    rw [if_pos rfl, List.find?_map, hnamed, tableIn?]
    simp only [true_and]
  · rw [if_neg hs, tableIn?]
    simp [hs]

/-- A table that can be written to is found under a name that is not the database's own. -/
theorem find?_of_writable (h : d.writable known n = .ok (s, t)) :
    ownTable? n = none ∧ d.find? n = some (s, t) := by
  unfold writable at h
  split at h
  · cases h
  · next found hown hfind =>
    obtain rfl := Except.ok.inj h
    exact ⟨hown, hfind⟩
  · cases h

/-- A table that is found is the one of the name in its schema. -/
theorem tableIn?_of_find? (h : d.find? n = some (s, t)) :
    d.locate? n = some s ∧ d.tableIn? s n.table = some t := by
  obtain ⟨s', hs', ht'⟩ := Option.bind_eq_some_iff.mp h
  obtain ⟨u, hu, heq⟩ := Option.map_eq_some_iff.mp ht'
  obtain ⟨rfl, rfl⟩ := Prod.mk.inj heq
  exact ⟨hs', hu⟩

/-- A row that was written is read from the table that it was written to. -/
theorem readable_withRow (h : d.writable known n = .ok (s, t)) (row : Row) :
    (d.withRow s t row).readable n = .ok (t.upsert row) := by
  obtain ⟨hown, hfind⟩ := find?_of_writable h
  obtain ⟨hlocate, htable⟩ := tableIn?_of_find? hfind
  have hstays : (d.withRow s t row).locate? n = d.locate? n := by
    simp only [locate?, tableIn?_withRow, Option.isSome_map]
  have hfound : (d.withRow s t row).find? n = some (s, t.upsert row) := by
    rw [find?, hstays, hlocate, Option.bind_some, tableIn?_withRow, htable]
    simp
  rw [readable, hown, hfound]

end Database

end Store

end BatchFrontier
