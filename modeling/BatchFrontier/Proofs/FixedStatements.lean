import BatchFrontier.Proofs.LedgerWays
import Mathlib.Data.List.TakeWhile

/-!
# Statements with fixed texts

A text is accepted as the name of a table if it is one identifier, or two with a point between them.
So it holds neither blanks nor quotes, and no part of it is taken for a place. What a ledger says to
the store is then fixed up to that name: one statement for each operation, with a text that the
values have no part in, and with as many places as there are values.
-/

namespace BatchFrontier

namespace Ledger

open Store (Connection TableName)

/-! ## Names of tables -/

/-- That a character is a letter of ASCII or an underscore. -/
def BeginsIdentifier (c : Char) : Prop :=
  ('A' ≤ c ∧ c ≤ 'Z') ∨ ('a' ≤ c ∧ c ≤ 'z') ∨ c = '_'

/-- That some characters are an identifier: after the first one there may be digits as well. -/
def IsIdentifier (cs : List Char) : Prop :=
  ∃ c rest, cs = c :: rest ∧ BeginsIdentifier c ∧
    ∀ d ∈ rest, BeginsIdentifier d ∨ ('0' ≤ d ∧ d ≤ '9')

/-- That a text names a table: one identifier, or two with a point between them. -/
def NamesTable (t : Text) : Prop :=
  ∃ first, IsIdentifier first ∧ (t = Text.ofChars first ∨
    ∃ second, IsIdentifier second ∧ t = Text.ofChars (first ++ '.' :: second))

theorem startsName_iff {c : Char} : startsName c = true ↔ BeginsIdentifier c := by
  have hranges : startsName c = (decide ('A' ≤ c ∧ c ≤ 'Z') ||
      decide ('a' ≤ c) && decide (c ≤ 'z') || c == '_') := rfl
  simp only [hranges, BeginsIdentifier, Bool.or_eq_true, Bool.and_eq_true, decide_eq_true_eq,
    beq_iff_eq, or_assoc]

theorem continuesName_iff {c : Char} :
    continuesName c = true ↔ BeginsIdentifier c ∨ ('0' ≤ c ∧ c ≤ '9') := by
  rw [← startsName_iff]
  simp only [continuesName, startsName, Char.isAlphanum, Char.isDigit, Bool.or_eq_true,
    Bool.and_eq_true, decide_eq_true_eq, ge_iff_le]
  exact or_right_comm

theorem isName_iff {cs : List Char} : isName cs = true ↔ IsIdentifier cs := by
  cases cs with
  | nil => simp [isName, IsIdentifier]
  | cons c rest =>
    simp [isName, IsIdentifier, startsName_iff, continuesName_iff]

/-- An identifier ends before the first point. -/
theorem IsIdentifier.ne_point {cs : List Char} (h : IsIdentifier cs) :
    ∀ c ∈ cs, (c != '.') = true := by
  intro c hc
  have hword := (TableName.isWord_of_isName (isName_iff.mpr h)).2 c hc
  rw [bne_iff_ne]
  rintro rfl
  revert hword
  decide

/-- The texts that are taken for names are those that name a table. -/
theorem isTableName_iff {t : Text} : isTableName t.chars = true ↔ NamesTable t := by
  constructor
  · intro h
    have hwhole : Text.ofChars t.chars = t :=
      Text.ofChars_chars (TableName.notMem_of_isTableName h (by decide) (by decide))
    rcases TableName.parts_of_isTableName h with
      ⟨hname, -⟩ | ⟨first, second, hparts, hfirst, hsecond, -⟩
    · exact ⟨t.chars, isName_iff.mp hname, .inl hwhole.symm⟩
    · rw [hparts] at hwhole
      exact ⟨first, isName_iff.mp hfirst, .inr ⟨second, isName_iff.mp hsecond, hwhole.symm⟩⟩
  · rintro ⟨first, hfirst, rfl | ⟨second, hsecond, rfl⟩⟩
    · have htake := List.takeWhile_eq_self_iff.mpr hfirst.ne_point
      rw [Text.chars_ofChars]
      simp only [isTableName, htake, List.drop_length]
      exact isName_iff.mpr hfirst
    · have htake : (first ++ '.' :: second).takeWhile (· != '.') = first := by
        rw [List.takeWhile_append_of_pos hfirst.ne_point]
        simp
      rw [Text.chars_ofChars]
      simp only [isTableName, htake, List.drop_left, Bool.and_eq_true]
      exact ⟨isName_iff.mpr hfirst, isName_iff.mpr hsecond⟩

/-! ## Operations -/

/-- What a ledger is asked to do. -/
inductive Operation where
  | schema
  | add (first last : Value)
  | get (first : Value)
  deriving Repr

namespace Operation

/-- The operation of a ledger through a handle. -/
def deed (l : Ledger) (h : Handle) : Operation → Deed
  | .schema => .schema l h
  | .add first last => .add l h first last
  | .get first => .get l h first

/-- The statement of an operation. -/
def statement (l : Ledger) : Operation → Statement
  | .schema => l.schemaStatement
  | .add first last => l.addStatement first last
  | .get first => l.getStatement first

/-- What the statement of an operation says beside the name of the table. -/
def frame : Operation → Frame
  | .schema => .create
  | .add _ _ => .upsert
  | .get _ => .find

/-- The values of an operation, in the order of the columns. -/
def values : Operation → List Value
  | .schema => []
  | .add first last => [first, last]
  | .get first => [first]

/-- A statement is its frame with the name of the table, and the values beside it. -/
theorem statement_eq (l : Ledger) (o : Operation) : o.statement l = ⟨o.frame.text l, o.values⟩ := by
  cases o with
  | schema =>
    rw [frame, Frame.text_create]
    rfl
  | add first last =>
    rw [frame, Frame.text_upsert l first last]
    rfl
  | get first =>
    rw [frame, Frame.text_find l first]
    rfl

/-- What is done with the rows that a statement reads: of a range that is looked up the first one
is fetched. -/
def answer : Operation → Handle.Offer → Except Fault (Option Sequence)
  | .schema, _ | .add _ _, _ => .ok none
  | .get _, o => o.fetchFirst.bind sequenceOf

end Operation

/-! ## Channels -/

/-- What carries statements out, in a state of its own, and offers the rows that they read. -/
def Channel (σ : Type) := σ → Statement → σ × Except Fault Handle.Offer

namespace Channel

variable {σ : Type}

/-- The channel that writes down what it is given to carry out. -/
def recorded (ch : Channel σ) : Channel (σ × List Statement) := fun (s, sent) statement =>
  let (s, reply) := ch s statement
  ((s, sent ++ [statement]), reply)

/-- A handle as a channel to a connection. -/
def ofHandle (h : Handle) : Channel Connection := fun c statement =>
  let (c, rows) := h.execute c statement
  (c, rows.map h.offer)

end Channel

/-- Does an operation through a channel. -/
def Operation.through {σ : Type} (ch : Channel σ) (l : Ledger) (o : Operation) (s : σ) :
    σ × Except Fault (Option Sequence) :=
  let (s, reply) := ch s (o.statement l)
  (s, reply.bind o.answer)

/-- A deed through a handle is its operation through the channel that the handle makes. -/
theorem Operation.perform_deed (l : Ledger) (h : Handle) (o : Operation) (c : Connection) :
    (o.deed l h).perform c = o.through (.ofHandle h) l c := by
  unfold Operation.through Channel.ofHandle
  cases o with
  | schema =>
    simp only [deed, Deed.perform, createSchema_eq, statement]
    cases (h.execute c l.schemaStatement).2 <;> rfl
  | add first last =>
    simp only [deed, Deed.perform, add_eq, statement]
    cases (h.execute c (l.addStatement first last)).2 <;> rfl
  | get first =>
    simp only [deed, Deed.perform, statement, get?]
    cases (h.execute c (l.getStatement first)).2 <;> rfl

/-! ## Places -/

/-- How often a mark occurs in a text. -/
def occurrences (mark text : List Char) : Nat := text.tails.countP (mark.isPrefixOf ·)

section

variable {c : Char} {mark cs : List Char}

/-- No mark begins in a part of a text that its first character does not stand in. -/
theorem occurrences_append (mark : List Char) (hcs : c ∉ cs) (ds : List Char) :
    occurrences (c :: mark) (cs ++ ds) = occurrences (c :: mark) ds := by
  induction cs with
  | nil => rfl
  | cons d cs ih =>
    simp only [List.mem_cons, not_or] at hcs
    unfold occurrences at ih ⊢
    rw [List.cons_append, List.tails, List.countP_cons, ih hcs.2]
    simp [List.isPrefixOf, hcs.1]

/-- A mark occurs once in itself. -/
theorem occurrences_self_append (hmark : c ∉ mark) (ds : List Char) :
    occurrences (c :: mark) (c :: mark ++ ds) = 1 + occurrences (c :: mark) ds := by
  have hbegins : (c :: mark).isPrefixOf (c :: (mark ++ ds)) = true := by
    rw [List.isPrefixOf_iff_prefix]
    exact List.prefix_append (c :: mark) ds
  have hrest := occurrences_append mark hmark ds
  unfold occurrences at hrest ⊢
  rw [List.cons_append, List.tails, List.countP_cons, if_pos hbegins, hrest, Nat.add_comm]

/-- Between pieces without a mark there are the places in between. -/
theorem occurrences_intercalate {own : List Char} {k : Nat}
    (hown : ∀ ds, occurrences (c :: mark) (own ++ ds) = k + occurrences (c :: mark) ds)
    {pieces : List (List Char)} (hpieces : ∀ piece ∈ pieces, c ∉ piece) :
    occurrences (c :: mark) (own.intercalate pieces) = k * (pieces.length - 1) := by
  induction pieces with
  | nil => rfl
  | cons piece pieces ih =>
    obtain ⟨hpiece, hrest⟩ := List.forall_mem_cons.mp hpieces
    cases pieces with
    | nil =>
      have hlast := occurrences_append mark hpiece []
      rw [List.append_nil] at hlast
      rw [List.intercalate_singleton, hlast]
      rfl
    | cons next pieces =>
      rw [List.intercalate_cons_cons, List.append_assoc, occurrences_append _ hpiece, hown,
        ih hrest]
      simp only [List.length_cons, Nat.add_sub_cancel]
      rw [Nat.mul_succ, Nat.add_comm]

end

/-- A mark begins only where its first character stands, which no other mark holds. -/
theorem exists_mark (style : PlaceholderStyle) : ∃ c mark, style.mark.toList = c :: mark ∧
    (c = '?' ∨ c = '%') ∧ c ∉ mark ∧
    ∀ own : PlaceholderStyle, style.mark ≠ own.mark → c ∉ own.mark.toList := by
  cases style with
  | qmark =>
    refine ⟨'?', [], rfl, .inl rfl, by decide, fun own hne => ?_⟩
    cases own <;> first | exact absurd rfl hne | decide
  | format | pyformat =>
    refine ⟨'%', ['s'], rfl, .inr rfl, by decide, fun own hne => ?_⟩
    cases own <;> first | exact absurd rfl hne | decide

namespace Frame

/-- A statement has the places of its frame, all of them in the style of the ledger. -/
theorem HasPlaces.occurrences_text {f : Frame} {n : Nat} (hf : f.HasPlaces n) {l : Ledger}
    (hname : isTableName l.table.toList = true) (style : PlaceholderStyle) :
    occurrences style.mark.toList (f.text l).toList =
      if style.mark = l.style.mark then n else 0 := by
  obtain ⟨pieces, hcount, hafter, hpieces⟩ := hf.after
  obtain ⟨c, mark, hmark, hfirst, hself, hother⟩ := exists_mark style
  have hmarkless (s : String) (hs : IsMarkless s) : c ∉ s.toList := by
    rcases hfirst with rfl | rfl
    · exact hs.1
    · exact hs.2
  have hown (ds : List Char) : occurrences (c :: mark) (l.style.mark.toList ++ ds) =
      (if style.mark = l.style.mark then 1 else 0) + occurrences (c :: mark) ds := by
    split
    · next hsame =>
      rw [← hsame, hmark]
      exact occurrences_self_append hself ds
    · next hne => rw [occurrences_append _ (hother _ hne), Nat.zero_add]
  have hblank : c ∉ [' '] := hmarkless " " (by decide)
  have htext : (f.text l).toList = f.before.toList ++ ([' '] ++ (l.table.toList ++ ([' '] ++
      l.style.mark.toList.intercalate (pieces.map String.toList)))) := by
    rw [f.toList_text, hafter, String.toList_intercalate]
    rfl
  rw [hmark, htext, occurrences_append _ (hmarkless _ hf.before), occurrences_append _ hblank,
    occurrences_append _ (hmarkless _ (isMarkless_of_isTableName hname)),
    occurrences_append _ hblank, occurrences_intercalate hown]
  · rw [List.length_map, hcount]
    split <;> simp
  · intro piece hpiece
    obtain ⟨s, hs, rfl⟩ := List.mem_map.mp hpiece
    exact hmarkless s (hpieces s hs)

end Frame

/-- A frame has a place for each value of its operation. -/
theorem Operation.hasPlaces (o : Operation) : o.frame.HasPlaces o.values.length := by
  cases o with
  | schema => exact Frame.create_hasPlaces
  | add first last => exact Frame.upsert_hasPlaces
  | get first => exact Frame.find_hasPlaces

/-! ## What a ledger says -/

/-- That what a ledger says in a table is fixed up to the name of the table. -/
structure SaysFixed (l : Ledger) : Prop where
  /-- A deed through a handle is its operation through the channel that the handle makes. -/
  through : ∀ (o : Operation) (h : Handle) (c : Connection),
    (o.deed l h).perform c = o.through (.ofHandle h) l c
  /-- Whatever the channel, an operation has it carry out one statement and no other: this is what
  is written down, which changes nothing else. -/
  once : ∀ {σ : Type} (ch : Channel σ) (o : Operation) (s : σ) (sent : List Statement),
    o.through ch.recorded l (s, sent) =
      (((o.through ch l s).1, sent ++ [o.statement l]), (o.through ch l s).2)
  /-- The text of a statement is the name of the table between fixed words. -/
  text : ∀ o : Operation, (o.statement l).text =
    o.frame.before ++ " " ++ l.table ++ " " ++ o.frame.after l.style.mark
  /-- Operations of one kind have the same text, whatever their values. -/
  blind : ∀ o p : Operation, o.frame.verb = p.frame.verb →
    (o.statement l).text = (p.statement l).text
  /-- The parameters are the values as they are, in the order of the columns. -/
  parameters : ∀ o : Operation, (o.statement l).parameters = o.values
  /-- There are as many places as parameters, all of them in the style of the ledger. -/
  places : ∀ (o : Operation) (style : PlaceholderStyle),
    occurrences style.mark.toList (o.statement l).text.toList =
      if style.mark = l.style.mark then (o.statement l).parameters.length else 0

/-- What a ledger says is fixed up to the name of its table. -/
theorem saysFixed_of_isTableName {l : Ledger} (hname : isTableName l.table.toList = true) :
    SaysFixed l where
  through o h c := o.perform_deed l h c
  once _ _ _ _ := rfl
  text o := by
    rw [o.statement_eq, Frame.text]
    simp only [String.append_assoc]
  blind o p hverb := by
    have hframe : o.frame = p.frame := by
      cases o <;> cases p <;> first | rfl | cases hverb
    rw [o.statement_eq, p.statement_eq, hframe]
  parameters o := by rw [o.statement_eq]
  places o style := by
    rw [o.statement_eq]
    exact o.hasPlaces.occurrences_text hname style

/-- How a text is taken as the name of a table. -/
structure TakesName (t : Text) : Prop where
  /-- In every style it is accepted exactly if it names a table. -/
  accepted : ∀ style : PlaceholderStyle,
    (∃ l, create (.text t) (.text style.name) = .ok l) ↔ NamesTable t
  /-- If it names none, there is no ledger, whatever stands in the place of the style. -/
  refused : ¬ NamesTable t → ∀ style : Value,
    create (.text t) style = .error (.tableName (.text t))
  /-- A ledger that it is accepted for keeps to it and to the style, and what it says is fixed up to
  it. -/
  kept : ∀ (style : PlaceholderStyle) (l : Ledger),
    create (.text t) (.text style.name) = .ok l →
      Text.ofString l.table = t ∧ l.style = style ∧ SaysFixed l

/-- A text is taken as the name of a table exactly if it names one, and then nothing but it is added
to what a ledger says. -/
theorem takesName (t : Text) : TakesName t where
  accepted style := by
    rw [← isTableName_iff]
    constructor
    · rintro ⟨l, hl⟩
      exact (isTableName_of_create hl).1
    · intro hname
      exact ⟨_, create_of_isTableName hname style⟩
  refused hnone style := by
    have hname : isTableName t.chars = false := by
      rw [← Bool.not_eq_true, isTableName_iff]
      exact hnone
    simp only [create, hname, if_true]
  kept style l hl := by
    obtain ⟨hname, htable⟩ := isTableName_of_create hl
    have hstyle : l.style = style := by
      rw [create_of_isTableName hname style] at hl
      exact (congrArg Ledger.style (Except.ok.inj hl)).symm
    have hwhole : Text.ofString l.table = t := by
      rw [htable, Text.ofString, String.toList_ofList]
      exact Text.ofChars_chars (TableName.notMem_of_isTableName hname (by decide) (by decide))
    have hkept : isTableName l.table.toList = true := by
      rwa [htable, String.toList_ofList]
    exact ⟨hwhole, hstyle, saysFixed_of_isTableName hkept⟩

end Ledger

end BatchFrontier
