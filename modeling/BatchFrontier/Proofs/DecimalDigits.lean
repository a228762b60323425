import BatchFrontier.Proofs.CommandOutcome

/-!
# Decimal digits

The digits that an integer is written with are ASCII digits and stand for it. So every reader of
decimal text that takes a run of such digits as a whole finds the integer again. What is read from
digits of any script has no more digits than were there, so that it can be written.
-/

namespace BatchFrontier

namespace Text

/-- The digits of a number are ASCII digits. -/
theorem bounds_of_mem_toDigits {n : Nat} {c : Char} (h : c ∈ Nat.toDigits 10 n) :
    48 ≤ c.toNat ∧ c.toNat ≤ 57 := by
  have hdigit := Nat.isDigit_of_mem_toDigits (by decide) (by decide) h
  simp only [Char.isDigit, Bool.and_eq_true, decide_eq_true_eq] at hdigit
  exact hdigit

/-- A character that comes before the ASCII digits is no digit of a number. -/
theorem ne_of_mem_toDigits {n : Nat} {c d : Char} (h : c ∈ Nat.toDigits 10 n) (hd : d.toNat < 48) :
    c ≠ d := by
  rintro rfl
  exact absurd (bounds_of_mem_toDigits h).1 (Nat.not_le.mpr hd)

/-- The digits of a number stand for it. -/
theorem foldl_toDigits (n : Nat) :
    (Nat.toDigits 10 n).foldl (fun m c => 10 * m + (c.toNat - 48)) 0 = n :=
  Nat.ofDigitChars_eq_foldl.symm.trans Nat.ofDigitChars_ten_toDigits

theorem toList_natural (n : Nat) : (natural n).toList = Nat.toDigits 10 n := String.toList_ofList

/-- An integer is written with the digits of its size, after a sign if it is negative. -/
theorem toList_integer (n : Int) :
    (integer n).toList = (if n < 0 then ['-'] else []) ++ Nat.toDigits 10 n.natAbs := by
  cases n with
  | ofNat n => exact toList_natural n
  | negSucc n =>
    rw [integer, String.toList_append, toList_natural, if_pos (Int.negSucc_lt_zero n)]
    rfl

/-- Nothing is taken from the ends of a sequence without members with the property. -/
theorem trimWhere_eq_self {α : Type} {p : α → Bool} {cs : List α} (h : ∀ c ∈ cs, p c = false) :
    trimWhere p cs = cs := by
  have hdrop (ds : List α) (hds : ∀ c ∈ ds, p c = false) : ds.dropWhile p = ds := by
    cases ds with
    | nil => rfl
    | cons d ds => rw [List.dropWhile_cons, if_neg (by simp [hds d List.mem_cons_self])]
  rw [trimWhere, hdrop cs h, hdrop cs.reverse fun c hc => h c (List.mem_reverse.mp hc),
    List.reverse_reverse]

/-- A digit of any script is less than ten. -/
theorem lt_ten_of_digitValue? {c : Char} {d : Nat} (h : digitValue? c = some d) : d < 10 := by
  unfold digitValue? at h
  split at h
  · split at h
    · obtain rfl := Option.some.inj h
      omega
    · cases h
  · obtain ⟨first, hfirst, rfl⟩ := Option.map_eq_some_iff.mp h
    have hrange := List.find?_some hfirst
    simp only [Bool.and_eq_true, decide_eq_true_eq] at hrange
    omega

/-- What digits add to a number stays below the next number with as many zeros. -/
theorem foldl_digits_lt {ds : List Nat} (h : ∀ d ∈ ds, d < 10) (n : Nat) :
    ds.foldl (fun n d => 10 * n + d) n < (n + 1) * 10 ^ ds.length := by
  induction ds generalizing n with
  | nil => simp
  | cons d ds ih =>
    obtain ⟨hd, hds⟩ := List.forall_mem_cons.mp h
    calc ds.foldl (fun n d => 10 * n + d) (10 * n + d)
        < (10 * n + d + 1) * 10 ^ ds.length := ih hds _
      _ ≤ ((n + 1) * 10) * 10 ^ ds.length := Nat.mul_le_mul_right _ (by omega)
      _ = (n + 1) * 10 ^ (d :: ds).length := by
        rw [List.length_cons, Nat.pow_succ', Nat.mul_assoc]

/-- What some digits stand for is less than the power of ten with as many zeros. -/
theorem digitsValue_lt (cs : List Char) : digitsValue cs < 10 ^ cs.countP isDigit := by
  have hdigits : ∀ d ∈ cs.filterMap digitValue?, d < 10 := by
    intro d hd
    obtain ⟨c, -, hc⟩ := List.mem_filterMap.mp hd
    exact lt_ten_of_digitValue? hc
  have hlt := foldl_digits_lt hdigits 0
  rw [List.length_filterMap_eq_countP, Nat.zero_add, Nat.one_mul] at hlt
  exact hlt

/-- A number that is read has no more digits than are read. -/
theorem lt_of_readMagnitude {cs : List Char} {n : Nat} (h : readMagnitude cs = .ok n) :
    n < 10 ^ maxIntegerDigits := by
  unfold readMagnitude at h
  simp only at h
  split at h
  · cases h
  · split at h
    · cases h
    · next hdigits =>
      split at h
      · obtain rfl := Except.ok.inj h
        exact Nat.lt_of_lt_of_le (digitsValue_lt _)
          (Nat.pow_le_pow_right (by decide) (Nat.not_lt.mp hdigits))
      · cases h

/-- An integer that is read has no more digits than are read. -/
theorem natAbs_lt_of_readInteger {cs : List Char} {n : Int} (h : readInteger cs = .ok n) :
    n.natAbs < 10 ^ maxIntegerDigits := by
  have hcast {m : Int} {rest : List Char}
      (hm : (readMagnitude rest >>= fun a => pure (a : Int)) = .ok m) :
      m.natAbs < 10 ^ maxIntegerDigits := by
    obtain ⟨a, ha, hm⟩ := bind_eq_ok_iff.mp hm
    obtain rfl := Except.ok.inj hm
    rw [Int.natAbs_natCast]
    exact lt_of_readMagnitude ha
  unfold readInteger at h
  split at h
  all_goals
    obtain ⟨m, hm, rfl⟩ := map_eq_ok_iff.mp h
  · rw [Int.natAbs_neg]
    exact hcast hm
  · exact hcast hm
  · exact hcast hm

end Text

/-- A text of characters has bytes. -/
theorem Utf8.exists_encodeText_ofChars (cs : List Char) :
    ∃ bs, encodeText (Text.ofChars cs) = .ok bs := by
  have hcodes (i : Nat) : ∃ bs, encodeCodes codeBytes? i (cs.map .char) = .ok bs := by
    induction cs generalizing i with
    | nil => exact ⟨[], rfl⟩
    | cons c cs ih =>
      obtain ⟨bs, hbs⟩ := ih (i + 1)
      exact ⟨String.utf8EncodeChar c ++ bs, by
        rw [List.map_cons, encodeCodes, codeBytes?, hbs]
        rfl⟩
  exact hcodes 0

namespace Store.Numeral

/-- The digits of a number are taken as a run of digits, and stand for it. -/
theorem digitsValue_toDigits (n : Nat) : digitsValue (Nat.toDigits 10 n) = n :=
  Text.foldl_toDigits n

theorem takeWhile_toDigits (n : Nat) :
    (Nat.toDigits 10 n).takeWhile isDigit = Nat.toDigits 10 n := by
  have hdigits : ∀ c ∈ Nat.toDigits 10 n, isDigit c = true := by
    intro c hc
    obtain ⟨hlow, hhigh⟩ := Text.bounds_of_mem_toDigits hc
    simp [isDigit, hlow, hhigh]
  simpa using @List.takeWhile_append_of_pos _ isDigit _ [] hdigits

/-- The decimal text of an integer looks like that integer, written whole. -/
theorem read?_integer (n : Int) : read? (Text.integer n).toList =
    some ⟨decide (n < 0), Nat.toDigits 10 n.natAbs, [], none⟩ := by
  have hspace : ∀ c ∈ (Text.integer n).toList, isSpace c = false := by
    intro c hc
    rw [Text.toList_integer, List.mem_append] at hc
    rcases hc with hsign | hdigit
    · split at hsign
      · obtain rfl := List.mem_singleton.mp hsign
        decide
      · exact absurd hsign List.not_mem_nil
    · have hlow := (Text.bounds_of_mem_toDigits hdigit).1
      have hblank : c ≠ ' ' := Text.ne_of_mem_toDigits hdigit (by decide)
      simp only [isSpace, beq_false_of_ne hblank, Bool.false_or, Bool.and_eq_false_iff,
        decide_eq_false_iff_not]
      omega
  have hsign : takeSign (Text.integer n).toList =
      (decide (n < 0), Nat.toDigits 10 n.natAbs) := by
    rw [Text.toList_integer]
    by_cases hn : n < 0
    · rw [if_pos hn, decide_eq_true hn]
      rfl
    · rw [if_neg hn, decide_eq_false hn, List.nil_append]
      unfold takeSign
      split
      · next heq =>
        have hmem : '-' ∈ Nat.toDigits 10 n.natAbs := by rw [heq]; exact List.mem_cons_self
        exact absurd rfl (Text.ne_of_mem_toDigits hmem (by decide))
      · next heq =>
        have hmem : '+' ∈ Nat.toDigits 10 n.natAbs := by rw [heq]; exact List.mem_cons_self
        exact absurd rfl (Text.ne_of_mem_toDigits hmem (by decide))
      · rfl
  rw [read?, Text.trimWhere_eq_self hspace, hsign]
  simp only [takeWhile_toDigits, List.drop_length, readExponent?, Nat.toDigits_ne_nil, false_and,
    if_false, Bool.false_eq_true]

end Store.Numeral

end BatchFrontier
