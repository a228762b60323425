import BatchFrontier.Json.Printer
import BatchFrontier.Json.Reader
import BatchFrontier.Proofs.DecimalDigits
import Mathlib.Data.List.Lex
import Mathlib.Data.List.Nodup

/-!
# Reading what was written

A record of texts and integers that was written is read again as the same record, with its names in
order, in whatever layout it stands. What is written is taken piece by piece: each piece leads the
reader from one standing to another, wherever it stands in the text, so the pieces are put together
as the writer put them together.
-/

namespace BatchFrontier

namespace Text

theorem digitValue?_of_bounds {c : Char} (hlow : 48 ≤ c.toNat) (hhigh : c.toNat ≤ 57) :
    digitValue? c = some (c.toNat - 48) := by
  rw [digitValue?, if_pos (by omega), if_pos ⟨hlow, hhigh⟩]

/-- The digits of a number stand for it wherever digits of any script are read. -/
theorem digitsValue_toDigits (n : Nat) : digitsValue (Nat.toDigits 10 n) = n := by
  have hvalues : (Nat.toDigits 10 n).filterMap digitValue? =
      (Nat.toDigits 10 n).map fun c => c.toNat - 48 := by
    rw [← List.filterMap_eq_map]
    refine List.filterMap_congr fun c hc => ?_
    obtain ⟨hlow, hhigh⟩ := bounds_of_mem_toDigits hc
    exact digitValue?_of_bounds hlow hhigh
  rw [digitsValue, hvalues, List.foldl_map]
  exact foldl_toDigits n

/-- The digits of a number begin with a zero only if the number is zero. -/
theorem head?_toDigits {n : Nat} (h : 0 < n) : (Nat.toDigits 10 n).head? ≠ some '0' := by
  induction n using Nat.strongRecOn with
  | ind n ih =>
    rcases Nat.lt_or_ge n 10 with hsmall | hlarge
    · rw [Nat.toDigits_of_lt_base hsmall]
      have hdigits : ∀ m < 10, 0 < m → [Nat.digitChar m].head? ≠ some '0' := by decide
      exact hdigits n hsmall h
    · rw [Nat.toDigits_of_base_le (by decide) hlarge, List.head?_append_of_ne_nil _
        Nat.toDigits_ne_nil]
      exact ih (n / 10) (by omega) (by omega)

end Text

namespace Json

/-! ## The order of names -/

/-- The numbers of the codes of a name, which put names in order. -/
def nameCodes (name : Text) : List Nat := name.codes.map Code.toNat

theorem nameLe_eq (a b : Text × String) :
    nameLe a b = decide (nameCodes a.1 ≤ nameCodes b.1) := by
  have hlex : (nameCodes b.1).lex (nameCodes a.1) Nat.blt =
      decide (nameCodes b.1 < nameCodes a.1) := by
    have hblt : Nat.blt = fun m n => decide (m < n) := by
      funext m n
      rw [Bool.eq_iff_iff, Nat.blt_eq, decide_eq_true_iff]
    rw [Bool.eq_iff_iff, hblt, List.lex_eq_true_iff_lt, decide_eq_true_iff]
  change (!(nameCodes b.1).lex (nameCodes a.1) Nat.blt) = _
  rw [hlex, ← decide_not]
  exact decide_eq_decide.mpr not_lt

/-- That fields are in the order of their names, none of which occurs twice. -/
def InOrder (fields : List (Text × Value)) : Prop :=
  fields.Pairwise fun a b => nameCodes a.1 < nameCodes b.1

/-- Whether fields are in order is seen from their names. -/
theorem inOrder_of_names {fields : List (Text × Value)} {names : List Text}
    (h : fields.map Prod.fst = names) (horder : (names.map nameCodes).Pairwise (· < ·)) :
    InOrder fields := by
  rw [← h, List.pairwise_map, List.pairwise_map] at horder
  exact horder

/-- Fields are sorted to the one arrangement of them that is in order. -/
theorem mergeSort_eq_of_inOrder {fields sorted : List (Text × Value)} (hperm : sorted.Perm fields)
    (horder : InOrder sorted) :
    fields.mergeSort (fun a b => decide (nameCodes a.1 ≤ nameCodes b.1)) = sorted := by
  have hsorted : (fields.mergeSort fun a b =>
      decide (nameCodes a.1 ≤ nameCodes b.1)).Pairwise fun a b =>
        nameCodes a.1 ≤ nameCodes b.1 := by
    refine (List.pairwise_mergeSort ?_ ?_ fields).imp of_decide_eq_true
    · intro a b c hab hbc
      simp only [decide_eq_true_eq] at hab hbc ⊢
      exact le_trans hab hbc
    · intro a b
      simp only [Bool.or_eq_true, decide_eq_true_eq]
      exact le_total _ _
  have hmerge := (List.mergeSort_perm fields fun a b =>
    decide (nameCodes a.1 ≤ nameCodes b.1)).trans hperm.symm
  have hnames : (sorted.map fun f => nameCodes f.1).Nodup := by
    rw [List.nodup_iff_pairwise_ne, List.pairwise_map]
    exact horder.imp fun hlt => ne_of_lt hlt
  refine hmerge.eq_of_pairwise ?_ hsorted (horder.imp fun hlt => le_of_lt hlt)
  intro a b ha hb hab hba
  exact List.inj_on_of_nodup_map hnames (hmerge.mem_iff.mp ha) hb (le_antisymm hab hba)

/-! ## Tokens -/

/-- A character that is written as it stands. -/
def isPlainChar (c : Char) : Bool :=
  decide (0x20 ≤ c.toNat) && decide (c.toNat < 0x7F) && c != '"' && c != '\\'

/-- A text whose characters are written as they stand. -/
def IsPlainText (t : Text) : Prop := ∃ cs : List Char, t = .ofChars cs ∧ cs.all isPlainChar = true

/-- That a number ends before some characters. -/
def EndsNumber (rest : List Char) : Prop :=
  ∀ c ∈ rest.head?, Token.isDigit c = false ∧ c ≠ '.' ∧ c ≠ 'e' ∧ c ≠ 'E'

theorem escapedChar_of_isPlainChar {c : Char} (h : isPlainChar c = true) :
    escapedChar c = [c] := by
  simp only [isPlainChar, Bool.and_eq_true, decide_eq_true_eq, bne_iff_ne] at h
  obtain ⟨⟨⟨hlow, hhigh⟩, hquote⟩, hslash⟩ := h
  have hne {d : Char} (hd : d.toNat < 0x20) : c ≠ d := by
    rintro rfl
    omega
  unfold escapedChar
  split
  · exact absurd rfl hquote
  · exact absurd rfl hslash
  · exact absurd rfl (hne (by decide))
  · exact absurd rfl (hne (by decide))
  · exact absurd rfl (hne (by decide))
  · exact absurd rfl (hne (by decide))
  · exact absurd rfl (hne (by decide))
  · exact if_pos ⟨hlow, hhigh⟩

/-- A plain text is written between its marks as it stands. -/
theorem toList_quoted {cs : List Char} (h : cs.all isPlainChar = true) :
    (quoted (.ofChars cs)).toList = '"' :: (cs ++ ['"']) := by
  have hcodes : (Text.ofChars cs).codes.flatMap escapedCode = cs := by
    rw [Text.ofChars, List.flatMap_map]
    induction cs with
    | nil => rfl
    | cons c cs ih =>
      rw [List.all_cons, Bool.and_eq_true] at h
      rw [List.flatMap_cons, ih h.2, escapedCode, escapedChar_of_isPlainChar h.1]
      rfl
  rw [quoted, hcodes, String.toList_ofList, List.cons_append]

/-- A plain text is scanned up to its closing mark. -/
theorem scanText_plain (start i : Nat) {cs : List Char} (h : cs.all isPlainChar = true)
    (rest : List Char) : Token.scanText start i (cs ++ '"' :: rest) =
      .ok (cs.map .char, cs.length + 1) := by
  induction cs generalizing i with
  | nil => rw [List.nil_append, Token.scanText]; rfl
  | cons c cs ih =>
    rw [List.all_cons, Bool.and_eq_true] at h
    have hplain := h.1
    simp only [isPlainChar, Bool.and_eq_true, decide_eq_true_eq, bne_iff_ne] at hplain
    obtain ⟨⟨⟨hlow, -⟩, hquote⟩, hslash⟩ := hplain
    rw [List.cons_append, Token.scanText, if_neg (by omega), ih (i + 1) h.2]
    · rw [List.length_cons, Nat.add_comm (cs.length + 1) 1]
      rfl
    · exact hquote
    all_goals
      intros
      exact absurd ‹c = '\\'› hslash

theorem isDigit_of_mem_toDigits {n : Nat} : ∀ c ∈ Nat.toDigits 10 n, Token.isDigit c = true := by
  intro c hc
  obtain ⟨hlow, hhigh⟩ := Text.bounds_of_mem_toDigits hc
  rw [Token.isDigit, decide_eq_true hlow, decide_eq_true hhigh, Bool.and_self]

/-- The digits of a number are taken as its whole part, up to where the number ends. -/
theorem wholeDigits_toDigits (n : Nat) {rest : List Char} (h : EndsNumber rest) :
    Token.wholeDigits (Nat.toDigits 10 n ++ rest) = Nat.toDigits 10 n := by
  rcases Nat.eq_zero_or_pos n with rfl | hn
  · rfl
  · unfold Token.wholeDigits
    split
    · next cs hzero =>
      have hhead := congrArg List.head? hzero
      rw [List.head?_append_of_ne_nil _ Nat.toDigits_ne_nil] at hhead
      exact absurd hhead (Text.head?_toDigits hn)
    · rw [Token.digits, List.takeWhile_append_of_pos isDigit_of_mem_toDigits]
      have hrest : rest.takeWhile Token.isDigit = [] := by
        cases rest with
        | nil => rfl
        | cons c rest => rw [List.takeWhile_cons_of_neg (by simp [(h c rfl).1])]
      rw [hrest, List.append_nil]

theorem endsNumber_of_head {c : Char}
    (h : Token.isDigit c = false ∧ c ≠ '.' ∧ c ≠ 'e' ∧ c ≠ 'E') (rest : List Char) :
    EndsNumber (c :: rest) := by
  rintro d hd
  obtain rfl := Option.some.inj hd
  exact h

/-- Nothing of a number follows where it ends. -/
theorem fraction_exponent_of_endsNumber {rest : List Char} (h : EndsNumber rest) :
    Token.fractionDigits rest = [] ∧ Token.exponent? rest = none := by
  cases rest with
  | nil => exact ⟨rfl, rfl⟩
  | cons c rest =>
    obtain ⟨-, hpoint, he, hE⟩ := h c rfl
    constructor
    · unfold Token.fractionDigits
      split
      · next heq => exact absurd (List.cons.inj heq).1 hpoint
      · rfl
    · have hmark : ¬(c = 'e' ∨ c = 'E') := by simp [he, hE]
      exact if_neg hmark

/-- The text of an integer is scanned as that integer, if it has few enough digits. -/
theorem scanNumber?_integer {n : Int} (hn : n.natAbs < 10 ^ Text.maxIntegerDigits)
    {rest : List Char} (h : EndsNumber rest) :
    Token.scanNumber? ((Text.integer n).toList ++ rest) =
      some (.scalar (.integer n), (Text.integer n).toList.length) := by
  obtain ⟨hfraction, hexponent⟩ := fraction_exponent_of_endsNumber h
  have hlength : ¬ Text.maxIntegerDigits < (Nat.toDigits 10 n.natAbs).length := by
    rw [Nat.not_lt, Nat.length_toDigits_le_iff (by decide) (by decide)]
    exact hn
  have hdigits := Text.digitsValue_toDigits n.natAbs
  rw [Text.toList_integer]
  by_cases hsign : n < 0
  · have hvalue : - (n.natAbs : Int) = n := by omega
    rw [if_pos hsign]
    simp only [List.cons_append, List.nil_append, Token.scanNumber?, wholeDigits_toDigits _ h,
      Nat.toDigits_ne_nil, if_false, List.drop_left, hfraction, if_true, List.drop_zero,
      hexponent, and_self, hlength, hdigits, hvalue]
    rw [List.length_cons, Nat.add_comm 1, Option.elim_none]
  · have hvalue : (n.natAbs : Int) = n := by omega
    rw [if_neg hsign, List.nil_append]
    unfold Token.scanNumber?
    split
    next negative body hbody =>
      split at hbody
      · next cs hminus =>
        have hhead := congrArg List.head? hminus
        rw [List.head?_append_of_ne_nil _ Nat.toDigits_ne_nil] at hhead
        have hmem := List.mem_of_head? hhead
        exact absurd rfl (Text.ne_of_mem_toDigits hmem (by decide))
      · obtain ⟨rfl, rfl⟩ := Prod.mk.inj hbody
        simp only [wholeDigits_toDigits _ h, Nat.toDigits_ne_nil, if_false, List.drop_left,
          hfraction, if_true, List.drop_zero, hexponent, and_self, hlength, hdigits,
          Bool.false_eq_true, hvalue, Option.elim_none, Nat.zero_add, Nat.add_zero]

/-- No word begins with a digit, nor with a minus sign before a digit. -/
theorem find?_words_eq_none {c : Char} (hc : Token.isDigit c = true) (cs : List Char) :
    (Token.words.find? fun w => w.1.isPrefixOf (c :: cs)) = none ∧
      (Token.words.find? fun w => w.1.isPrefixOf ('-' :: c :: cs)) = none := by
  have hletters : ∀ d ∈ ['n', 't', 'f', 'N', 'I', '-'], d ≠ c := by
    have hnone : ['n', 't', 'f', 'N', 'I', '-'].all (fun d => !Token.isDigit d) = true := by decide
    rintro d hd rfl
    have hd := List.all_eq_true.mp hnone d hd
    rw [hc] at hd
    cases hd
  simp only [List.forall_mem_cons, List.not_mem_nil, false_implies, implies_true, and_true]
    at hletters
  obtain ⟨hn, ht, hf, hN, hI, hminus⟩ := hletters
  simp [Token.words, hn, ht, hf, hN, hI, hminus]

/-- A digit or a minus sign is neither a blank nor a mark. -/
theorem not_mark_of_isDigit {c : Char} (hc : c = '-' ∨ Token.isDigit c = true) :
    Token.isBlank c = false ∧ "\x7b\x7d[],:".toList.contains c = false ∧ c ≠ '"' := by
  have hmem : c ∈ '-' :: (List.range 10).map fun n => Char.ofNat (48 + n) := by
    rcases hc with rfl | hc
    · exact List.mem_cons_self
    · simp only [Token.isDigit, Bool.and_eq_true, decide_eq_true_eq] at hc
      refine List.mem_cons_of_mem _ (List.mem_map.mpr ⟨c.toNat - 48, ?_, ?_⟩)
      · rw [List.mem_range]
        omega
      · rw [Nat.add_sub_cancel' hc.1, Char.ofNat_toNat]
  have hall : ('-' :: (List.range 10).map fun n => Char.ofNat (48 + n)).all (fun c =>
      !Token.isBlank c && !"\x7b\x7d[],:".toList.contains c && decide (c ≠ '"')) = true := by
    decide
  have hc := List.all_eq_true.mp hall c hmem
  simp only [Bool.and_eq_true, Bool.not_eq_true', decide_eq_true_eq] at hc
  exact ⟨hc.1.1, hc.1.2, hc.2⟩

/-- The text of an integer is one token. -/
theorem lexeme_integer {n : Int} (hn : n.natAbs < 10 ^ Text.maxIntegerDigits) {rest : List Char}
    (h : EndsNumber rest) : ∃ c cs, (Text.integer n).toList = c :: cs ∧ Token.isBlank c = false ∧
      ∀ i, Token.lexeme i c (cs ++ rest) = (.scalar (.integer n), cs.length) := by
  obtain ⟨c, cs, hcs, hc, hword⟩ : ∃ c cs, (Text.integer n).toList = c :: cs ∧
      (c = '-' ∨ Token.isDigit c = true) ∧
      (Token.words.find? fun w => w.1.isPrefixOf (c :: (cs ++ rest))) = none := by
    cases hdigits : Nat.toDigits 10 n.natAbs with
    | nil => exact absurd hdigits Nat.toDigits_ne_nil
    | cons d ds =>
      have hd := isDigit_of_mem_toDigits d (hdigits ▸ List.mem_cons_self)
      rw [Text.toList_integer, hdigits]
      by_cases hsign : n < 0
      · rw [if_pos hsign]
        exact ⟨'-', d :: ds, rfl, .inl rfl, (find?_words_eq_none hd _).2⟩
      · rw [if_neg hsign]
        exact ⟨d, ds, rfl, .inr hd, (find?_words_eq_none hd _).1⟩
  obtain ⟨hblank, hmark, hquote⟩ := not_mark_of_isDigit hc
  have hscan := scanNumber?_integer hn h
  rw [hcs, List.cons_append] at hscan
  refine ⟨c, cs, hcs, hblank, fun i => ?_⟩
  rw [Token.lexeme, hmark, if_neg Bool.false_ne_true, if_neg hquote, hword]
  simp only [hscan, List.length_cons, Nat.add_sub_cancel]

/-! ## Steps of the reader -/

/-- Where the reading of some characters ends that began somewhere else. -/
def readFrom (r : Reading) (i : Nat) (cs : List Char) : Except Stop Reading :=
  (Token.scanFrom i cs).foldlM (Reading.next none) r

/-- That some characters before others lead the reader from one standing to another. -/
def Leads (r : Reading) (cs : List Char) (r' : Reading) (rest : List Char) : Prop :=
  ∀ i, ∃ j, readFrom r i (cs ++ rest) = readFrom r' j rest

theorem Leads.trans {r r' r'' : Reading} {cs ds rest : List Char} (h : Leads r cs r' (ds ++ rest))
    (h' : Leads r' ds r'' rest) : Leads r (cs ++ ds) r'' rest := by
  intro i
  obtain ⟨j, hj⟩ := h i
  obtain ⟨k, hk⟩ := h' j
  exact ⟨k, by rw [List.append_assoc, hj, hk]⟩

/-- Blanks lead nowhere. -/
theorem leads_blanks (r : Reading) {cs : List Char} (h : ∀ c ∈ cs, Token.isBlank c = true)
    (rest : List Char) : Leads r cs r rest := by
  intro i
  induction cs generalizing i with
  | nil => exact ⟨i, rfl⟩
  | cons c cs ih =>
    obtain ⟨j, hj⟩ := ih (fun d hd => h d (List.mem_cons_of_mem c hd)) (i + 1)
    refine ⟨j, ?_⟩
    rw [readFrom, List.cons_append, Token.scanFrom, if_pos (h c List.mem_cons_self)]
    exact hj

/-- One token leads the reader one step on. -/
theorem leads_token {r r' : Reading} {c : Char} {cs rest : List Char} {shape : Shape}
    (hblank : Token.isBlank c = false)
    (hlexeme : ∀ i, Token.lexeme i c (cs ++ rest) = (shape, cs.length))
    (hlast : Token.isLast shape = false) (hnext : ∀ i, r.next none ⟨i, shape⟩ = .ok r') :
    Leads r (c :: cs) r' rest := by
  intro i
  refine ⟨i + 1 + cs.length, ?_⟩
  rw [readFrom, List.cons_append, Token.scanFrom, hblank, if_neg Bool.false_ne_true, hlexeme]
  simp only [hlast, Bool.false_eq_true, if_false, List.drop_left, List.foldlM_cons, hnext]
  rfl

/-- A mark leads the reader one step on. -/
theorem leads_mark {r r' : Reading} {c : Char} (hc : c ∈ "\x7b\x7d[],:".toList)
    (hnext : ∀ i, r.next none ⟨i, .mark c⟩ = .ok r') (rest : List Char) : Leads r [c] r' rest := by
  have hmarks : "\x7b\x7d[],:".toList.all (fun c => !Token.isBlank c) = true := by decide
  have hblank := Bool.not_eq_true' _ ▸ List.all_eq_true.mp hmarks c hc
  refine leads_token hblank (fun i => ?_) rfl hnext
  rw [Token.lexeme, if_pos (List.contains_iff_mem.mpr hc)]
  rfl

/-- A plain text leads the reader one step on. -/
theorem leads_text {r r' : Reading} {t : Text} (ht : IsPlainText t)
    (hnext : ∀ i, r.next none ⟨i, .text t⟩ = .ok r') (rest : List Char) :
    Leads r (quoted t).toList r' rest := by
  obtain ⟨cs, rfl, hcs⟩ := ht
  rw [toList_quoted hcs]
  refine leads_token (by decide) (fun i => ?_) rfl hnext
  have hscan := scanText_plain i (i + 1) hcs rest
  rw [Token.lexeme, if_neg (by decide), if_pos rfl, List.append_assoc, List.singleton_append, hscan,
    List.length_append]
  rfl

theorem isPlainText_ofString {s : String} (h : s.toList.all isPlainChar = true) :
    IsPlainText s := ⟨s.toList, rfl, h⟩

/-- A value that is nothing, an integer or a plain text. -/
inductive IsPlain : Value → Prop
  | nothing : IsPlain .nothing
  | integer (n : Int) : IsPlain (.integer n)
  | text {t : Text} (ht : IsPlainText t) : IsPlain (.text t)

/-- A plain value that can be written leads the reader past a value. -/
theorem leads_value {v : Value} (hv : IsPlain v) (hwritable : v.isWritable = true)
    (opened : List Open) (l : Layout) (depth : Nat) {rest : List Char} (h : EndsNumber rest) :
    Leads ⟨.value, opened⟩ (writeAt l depth v).toList (Reading.give v opened) rest := by
  cases hv with
  | nothing =>
    have htext : (writeAt l depth .nothing).toList = 'n' :: ['u', 'l', 'l'] := by
      rw [writeAt]
      rfl
    rw [htext]
    exact leads_token (by decide) (fun i => rfl) rfl fun i => rfl
  | integer n =>
    have hn := Value.isWritable_integer_iff.mp hwritable
    obtain ⟨c, cs, hcs, hblank, hlexeme⟩ := lexeme_integer hn h
    rw [writeAt, hcs]
    exact leads_token hblank hlexeme rfl fun i => rfl
  | text ht =>
    rw [writeAt]
    exact leads_text ht (fun i => rfl) rest

/-- A text that leads the reader from the beginning to a complete value is read as that value. -/
theorem read_of_leads {cs : List Char} {v : Value} (h : Leads ⟨.value, []⟩ cs ⟨.complete v, []⟩ [])
    (hmark : cs.head? ≠ some '\uFEFF') : read cs = .ok v := by
  have hvalue : valueOf none (Token.scan cs) = .ok v := by
    obtain ⟨j, hj⟩ := h 0
    have hfinish : readFrom ⟨.complete v, []⟩ j [] = .ok ⟨.complete v, []⟩ := by
      rw [readFrom, Token.scanFrom]
      rfl
    rw [List.append_nil, hfinish, readFrom] at hj
    rw [valueOf, Token.scan, hj]
    rfl
  unfold read
  split
  · exact absurd rfl hmark
  · rw [hvalue]

/-! ## Records -/

/-- The text of a field: its name, a colon and its value. -/
def fieldText (l : Layout) (f : Text × Value) : String :=
  quoted f.1 ++ l.colon ++ writeAt l 1 f.2

/-- That a field has a plain name and a plain value which can be written. -/
structure IsPlainField (f : Text × Value) : Prop where
  name : IsPlainText f.1
  value : IsPlain f.2
  writable : f.2.isWritable = true

theorem setField_of_notMem {name : Text} {v : Value} {fields : List (Text × Value)}
    (h : name ∉ fields.map Prod.fst) : Reading.setField name v fields = (name, v) :: fields := by
  have hfind : Value.field? fields name = none := by
    rw [Value.field?, Option.map_eq_none_iff, List.find?_eq_none]
    intro f hf hname
    exact h (List.mem_map.mpr ⟨f, hf, eq_of_beq hname⟩)
  rw [Reading.setField, hfind, Option.isSome_none, if_neg Bool.false_ne_true]

/-- The reader stands where the name of a field may stand. -/
def IsBeforeName (stage : Stage) : Prop := stage = .firstName ∨ stage = .name

/-- The text of a field leads the reader past it. -/
theorem leads_field {stage : Stage} (hstage : IsBeforeName stage) {f : Text × Value}
    (hf : IsPlainField f) {fields : List (Text × Value)} (hnew : f.1 ∉ fields.map Prod.fst)
    (name : Text) (l : Layout) {rest : List Char} (h : EndsNumber rest) :
    Leads ⟨stage, [.object fields name]⟩ (fieldText l f).toList
      ⟨.separator, [.object (f :: fields) f.1]⟩ rest := by
  have hname (rest : List Char) : Leads ⟨stage, [.object fields name]⟩ (quoted f.1).toList
      ⟨.colon, [.object fields f.1]⟩ rest := by
    rcases hstage with rfl | rfl <;> exact leads_text hf.name (fun i => rfl) rest
  have hcolon (rest : List Char) : Leads ⟨.colon, [.object fields f.1]⟩ l.colon.toList
      ⟨.value, [.object fields f.1]⟩ rest := by
    have hmark (rest : List Char) : Leads ⟨.colon, [.object fields f.1]⟩ [':']
        ⟨.value, [.object fields f.1]⟩ rest := leads_mark (by decide) (fun i => rfl) rest
    rw [Layout.colon]
    split
    · have hblank : Leads ⟨.value, [.object fields f.1]⟩ [' ']
          ⟨.value, [.object fields f.1]⟩ rest :=
        leads_blanks _ (List.forall_mem_singleton.mpr rfl) rest
      exact (hmark ([' '] ++ rest)).trans hblank
    · exact hmark rest
  have hvalue := leads_value hf.value hf.writable [.object fields f.1] l 1 h
  rw [Reading.give, setField_of_notMem hnew] at hvalue
  rw [fieldText, String.toList_append, String.toList_append]
  exact ((hname _).trans (hcolon _)).trans hvalue

theorem isBlank_of_mem_newline (l : Layout) (depth : Nat) :
    ∀ c ∈ (l.newline depth).toList, Token.isBlank c = true := by
  intro c hc
  rw [Layout.newline] at hc
  split at hc
  · rw [String.toList_append, String.toList_ofList, List.mem_append] at hc
    rcases hc with hline | hspace
    · obtain rfl := List.mem_singleton.mp hline
      decide
    · rw [String.toList_ofList] at hspace
      rw [List.eq_of_mem_replicate hspace]
      decide
  · cases hc

/-- The texts of fields, with what stands between them, lead the reader past all of them. -/
theorem leads_fields (l : Layout) {fields : List (Text × Value)} (hne : fields ≠ [])
    (hplain : ∀ f ∈ fields, IsPlainField f) (hnodup : (fields.map Prod.fst).Nodup) {stage : Stage}
    (hstage : IsBeforeName stage) {before : List (Text × Value)}
    (hnew : ∀ f ∈ fields, f.1 ∉ before.map Prod.fst) (name : Text) {rest : List Char}
    (h : EndsNumber rest) : ∃ name', Leads ⟨stage, [.object before name]⟩
      (String.intercalate ("," ++ l.newline 1) (fields.map (fieldText l))).toList
      ⟨.separator, [.object (fields.reverse ++ before) name']⟩ rest := by
  induction fields generalizing stage before name with
  | nil => exact absurd rfl hne
  | cons f fields ih =>
    have hf := hplain f List.mem_cons_self
    have hfnew := hnew f List.mem_cons_self
    cases fields with
    | nil =>
      refine ⟨f.1, ?_⟩
      have hfield := leads_field hstage hf hfnew name l h
      simpa using hfield
    | cons g fields =>
      rw [List.map_cons, List.nodup_cons] at hnodup
      have hrestNew : ∀ g' ∈ g :: fields, g'.1 ∉ (f :: before).map Prod.fst := by
        intro g' hg'
        rw [List.map_cons, List.mem_cons, not_or]
        refine ⟨?_, hnew g' (List.mem_cons_of_mem f hg')⟩
        intro heq
        exact hnodup.1 (List.mem_map.mpr ⟨g', hg', heq⟩)
      obtain ⟨name', hfields⟩ := ih (List.cons_ne_nil g fields)
        (fun g' hg' => hplain g' (List.mem_cons_of_mem f hg')) hnodup.2 (.inr rfl) hrestNew f.1
      refine ⟨name', ?_⟩
      have hcomma (rest : List Char) : Leads ⟨.separator, [.object (f :: before) f.1]⟩ [',']
          ⟨.name, [.object (f :: before) f.1]⟩ rest := leads_mark (by decide) (fun i => rfl) rest
      have hline := leads_blanks ⟨.name, [.object (f :: before) f.1]⟩ (isBlank_of_mem_newline l 1)
      have hfield (rest : List Char) := leads_field hstage hf hfnew name l
        (endsNumber_of_head (c := ',') (by decide) rest)
      have hseparator : ("," ++ l.newline 1).toList = [','] ++ (l.newline 1).toList := by
        rw [String.toList_append]
        rfl
      rw [List.map_cons, List.map_cons, String.intercalate_cons_cons, ← List.map_cons,
        String.toList_append, String.toList_append, hseparator, List.reverse_cons,
        List.append_assoc _ [f]]
      exact ((hfield _).trans ((hcomma _).trans (hline _))).trans hfields

theorem writeFields_eq (l : Layout) (depth : Nat) (fields : List (Text × Value)) :
    writeFields l depth fields = fields.map fun f => (f.1, writeAt l depth f.2) := by
  induction fields with
  | nil => rw [writeFields]; rfl
  | cons f fields ih => rw [writeFields, ih]; rfl

/-- A record is written with its fields in order. -/
theorem write_record (l : Layout) {fields sorted : List (Text × Value)}
    (hperm : sorted.Perm fields) (horder : InOrder sorted) : write l (.record fields) =
      l.enclose '\x7b' '\x7d' 0 (sorted.map (fieldText l)) := by
  have hsort : (writeFields l 1 fields).mergeSort nameLe =
      sorted.map fun f => (f.1, writeAt l 1 f.2) := by
    rw [writeFields_eq, ← mergeSort_eq_of_inOrder hperm horder]
    refine (List.map_mergeSort fun a _ b _ => ?_).symm
    rw [nameLe_eq]
  rw [write, writeAt]
  simp only [hsort, List.map_map]
  rfl

/-- A record of plain fields is read as it was written, with its fields in order. -/
theorem read_write (l : Layout) {fields sorted : List (Text × Value)} (hne : fields ≠ [])
    (hplain : ∀ f ∈ fields, IsPlainField f) (hperm : sorted.Perm fields)
    (horder : InOrder sorted) :
    read (write l (.record fields) ++ "\n").toList = .ok (.record sorted) := by
  have hnodup : (sorted.map Prod.fst).Nodup := by
    rw [List.nodup_iff_pairwise_ne, List.pairwise_map]
    exact horder.imp fun hlt heq => ne_of_lt hlt (congrArg nameCodes heq)
  have hsorted : sorted ≠ [] := fun hnil => hne (List.perm_nil.mp (hnil ▸ hperm.symm))
  have hparts : sorted.map (fieldText l) ≠ [] := by simpa using hsorted
  have hbegin (rest : List Char) : Leads ⟨.value, []⟩ ['\x7b'] ⟨.firstName, [.object [] ""]⟩ rest :=
    leads_mark (by decide) (fun i => rfl) rest
  have hend (name : Text) (rest : List Char) :
      Leads ⟨.separator, [.object sorted.reverse name]⟩ ['\x7d'] ⟨.complete (.record sorted), []⟩
        rest := by
    refine leads_mark (by decide) (fun i => ?_) rest
    have hclose : Reading.close [.object sorted.reverse name] =
        ⟨.complete (.record sorted), []⟩ := by
      rw [Reading.close, List.reverse_reverse, Reading.give]
    exact congrArg Except.ok hclose
  have hnewline (r : Reading) (depth : Nat) := leads_blanks r (isBlank_of_mem_newline l depth)
  have hfinal (r : Reading) (rest : List Char) : Leads r ['\n'] r rest :=
    leads_blanks r (List.forall_mem_singleton.mpr rfl) rest
  have hlast : EndsNumber ((l.newline 0).toList ++ ['\x7d', '\n']) := by
    rw [Layout.newline]
    split <;> exact endsNumber_of_head (by decide) _
  have hnew : ∀ f ∈ sorted, f.1 ∉ ([] : List (Text × Value)).map Prod.fst :=
    fun _ _ => List.not_mem_nil
  obtain ⟨name, hfields⟩ := leads_fields l hsorted (fun f hf => hplain f (hperm.mem_iff.mp hf))
    hnodup (.inl rfl) hnew "" hlast
  rw [List.append_nil] at hfields
  have hwhole : (write l (.record fields) ++ "\n").toList = ['\x7b'] ++ (l.newline 1).toList ++
      (String.intercalate ("," ++ l.newline 1) (sorted.map (fieldText l))).toList ++
      (l.newline 0).toList ++ ['\x7d'] ++ ['\n'] := by
    rw [write_record l hperm horder, Layout.enclose, if_neg hparts]
    simp only [String.toList_append, String.toList_singleton]
    rfl
  have hread := (((((hbegin _).trans (hnewline _ 1 _)).trans hfields).trans
    (hnewline _ 0 _)).trans (hend name _)).trans (hfinal _ [])
  rw [← hwhole] at hread
  refine read_of_leads hread ?_
  rw [hwhole]
  simp only [List.cons_append, List.head?_cons]
  decide

theorem isWritable_of_haveWritable {fields : List (Text × Value)}
    (h : Value.haveWritable fields = true) : ∀ f ∈ fields, f.2.isWritable = true := by
  induction fields with
  | nil => exact fun _ hf => absurd hf List.not_mem_nil
  | cons f fields ih =>
    rw [Value.haveWritable, Bool.and_eq_true] at h
    exact List.forall_mem_cons.mpr ⟨h.1, ih h.2⟩

/-- A record of plain fields that is printed on lines of its own is read as it was, with its fields
in order. -/
theorem read_of_print {l : Layout} {fields sorted : List (Text × Value)} {text : String}
    (h : print l (.record fields) = .ok text) (hne : fields ≠ [])
    (hplain : ∀ f ∈ fields, IsPlainText f.1 ∧ IsPlain f.2) (hperm : sorted.Perm fields)
    (horder : InOrder sorted) : read (text ++ "\n").toList = .ok (.record sorted) := by
  unfold print at h
  split at h
  · next hwritable =>
    rw [Value.isWritable] at hwritable
    obtain rfl := Except.ok.inj h
    refine read_write l hne (fun f hf => ?_) hperm horder
    exact ⟨(hplain f hf).1, (hplain f hf).2, isWritable_of_haveWritable hwritable f hf⟩
  · cases h

/-! ## Objects -/

/-- That some fields are those of a record in order, and can be written and read again. -/
structure Arranges (sorted fields : List (Text × Value)) : Prop where
  perm : sorted.Perm fields
  order : InOrder sorted
  plain : ∀ f ∈ fields, IsPlainText f.1 ∧ IsPlain f.2
  ne_nil : fields ≠ []

/-- That an output is a line or some lines with one object, whose names are in order. -/
structure IsObject (l : Layout) (fields : List (Text × Value)) (output : String) : Prop where
  written : output = write l (.record fields) ++ "\n"
  read : read output.toList = .ok (.record fields)
  order : InOrder fields

/-- A record is printed as one object. -/
theorem Arranges.isObject {sorted fields : List (Text × Value)} (h : Arranges sorted fields)
    {l : Layout} {text : String} (hprinted : print l (.record fields) = .ok text) :
    IsObject l sorted (text ++ "\n") where
  written := by
    have htext : write l (.record fields) = text := by
      unfold print at hprinted
      split at hprinted
      · exact Except.ok.inj hprinted
      · cases hprinted
    rw [← htext, write_record l h.perm h.order, write_record l (.refl sorted) h.order]
  read := read_of_print hprinted h.ne_nil h.plain h.perm h.order
  order := h.order

/-- An object is not empty. -/
theorem IsObject.ne_empty {l : Layout} {fields : List (Text × Value)} {output : String}
    (h : IsObject l fields output) : output ≠ "" := by
  intro hempty
  have hline := congrArg String.toList (h.written.symm.trans hempty)
  rw [String.toList_append] at hline
  exact List.append_ne_nil_of_right_ne_nil _ (List.cons_ne_nil '\n' []) hline

/-- Whether a value can be printed does not depend on the layout. -/
theorem print_layout {l l' : Layout} {v : Value} :
    (∀ f, print l v = .error f → print l' v = .error f) ∧
      ∀ text, print l v = .ok text → ∃ text', print l' v = .ok text' := by
  unfold print
  split
  · exact ⟨fun f h => (by cases h), fun text _ => ⟨_, rfl⟩⟩
  · exact ⟨fun f h => h, fun text h => (by cases h)⟩

end Json

end BatchFrontier
