import BatchFrontier.Ledger
import Mathlib.Data.List.Basic

/-!
# How the store understands a ledger's statements

A statement is put together from fixed words and the name of a table. Cut into tokens it is the
tokens of the parts, because the parts meet at blanks. So each statement is understood as one
command on the table of that name, provided that its places are written as the store writes them.
-/

namespace BatchFrontier

namespace Store.Token

/-- A word that was begun is finished before all other tokens. -/
theorem finish_append (word : List Char) (ts us : List Token) :
    scanFrom.finish word (ts ++ us) = scanFrom.finish word ts ++ us := by
  unfold scanFrom.finish
  split
  · rfl
  · exact List.cons_append.symm

/-- A character that stands in no word separates the tokens of two parts of a text. -/
theorem scanFrom_append {c : Char} (hc : isWordChar c = false) (word cs ds : List Char) :
    scanFrom word (cs ++ c :: ds) = scanFrom word cs ++ scanFrom [] (c :: ds) := by
  have hbegun (word : List Char) :
      scanFrom word (c :: ds) = scanFrom.finish word (scanFrom [] (c :: ds)) := by
    simp only [scanFrom, hc, Bool.false_eq_true, if_false]
    split <;> rfl
  generalize scanFrom [] (c :: ds) = rest at hbegun ⊢
  induction cs generalizing word with
  | nil => exact (hbegun word).trans (finish_append word [] rest)
  | cons d cs ih =>
    simp only [List.cons_append, scanFrom]
    split
    · exact ih (d :: word)
    · split
      · rw [ih, finish_append]
      · rw [ih, ← List.cons_append, finish_append]

/-- A blank between two parts of a text is no token. -/
theorem scan_append_blank (s t : String) : scan (s ++ " " ++ t) = scan s ++ scan t := by
  have hblank : " ".toList = [' '] := rfl
  simp only [scan, String.toList_append, hblank, List.append_assoc, List.cons_append,
    List.nil_append]
  exact scanFrom_append (by decide) [] _ _

/-- A mark between two parts of a text is a token. -/
theorem scan_append_mark {c : Char} (hc : isWordChar c = false) (hblank : c ≠ ' ') (s t : String) :
    scan (s ++ String.singleton c ++ t) = scan s ++ .mark c :: scan t := by
  simp only [scan, String.toList_append, String.toList_singleton, List.append_assoc,
    List.cons_append, List.nil_append]
  rw [scanFrom_append hc, scanFrom, if_neg (by simp [hc]), if_neg hblank]
  rfl

/-- A run of characters of words belongs to the word that was begun. -/
theorem scanFrom_append_word {cs : List Char} (hcs : ∀ c ∈ cs, isWordChar c = true)
    (word ds : List Char) : scanFrom word (cs ++ ds) = scanFrom (cs.reverse ++ word) ds := by
  induction cs generalizing word with
  | nil => rfl
  | cons c cs ih =>
    have hc := hcs c List.mem_cons_self
    rw [List.cons_append, scanFrom, if_pos hc,
      ih fun d hd => hcs d (List.mem_cons_of_mem c hd)]
    simp

/-- A word is one token. -/
theorem scan_word {cs : List Char} (hne : cs ≠ []) (hcs : ∀ c ∈ cs, isWordChar c = true) :
    scan (String.ofList cs) = [.word (String.ofList cs)] := by
  have h := scanFrom_append_word hcs [] []
  simp only [List.append_nil] at h
  simp [scan, h, scanFrom, scanFrom.finish, hne]

/-- Two words with a point between them are three tokens. -/
theorem scan_pointed {cs ds : List Char} (hcs : cs ≠ []) (hds : ds ≠ [])
    (hcs' : ∀ c ∈ cs, isWordChar c = true) (hds' : ∀ c ∈ ds, isWordChar c = true) :
    scan (String.ofList (cs ++ '.' :: ds)) =
      [.word (String.ofList cs), .mark '.', .word (String.ofList ds)] := by
  have hpoint : isWordChar '.' = false := by decide
  have hsecond := scanFrom_append_word hds' [] []
  simp only [List.append_nil] at hsecond
  simp [scan, scanFrom_append_word hcs', scanFrom, hpoint, hsecond, scanFrom.finish, hcs, hds]

end Store.Token

namespace Store.Command

/-- A text fits the form that is made of its own words and marks. -/
theorem fit_literally (s : String) (places : List Place) (found : Option TableName)
    (tokens : List Token) :
    fit (Verb.literally s ++ places) found (Token.scan s ++ tokens) = fit places found tokens := by
  unfold Verb.literally
  induction Token.scan s with
  | nil => rfl
  | cons t ts ih =>
    cases t with
    | word w => simpa only [List.map_cons, List.cons_append, fit, if_true] using ih
    | mark c => simpa only [List.map_cons, List.cons_append, fit, if_true] using ih

/-- A place in the other style does not fit. -/
theorem fit_foreignMark (a b b' : String) (found : Option TableName) :
    fit (Verb.literally (a ++ "?" ++ b)) found (Token.scan (a ++ "%s" ++ b')) =
      .error (.nearWord "%") := by
  have hplace : Verb.literally (a ++ "?" ++ b) =
      Verb.literally a ++ .mark '?' :: Verb.literally b := by
    rw [Verb.literally, show "?" = String.singleton '?' from rfl,
      Token.scan_append_mark (by decide) (by decide)]
    simp only [Verb.literally, List.map_append, List.map_cons]
  have hforeign : Token.scan (a ++ "%s" ++ b') =
      Token.scan a ++ .mark '%' :: Token.scan ("s" ++ b') := by
    rw [show "%s" = String.singleton '%' ++ "s" from rfl, ← String.append_assoc,
      String.append_assoc, Token.scan_append_mark (by decide) (by decide)]
  rw [hplace, hforeign, fit_literally]
  rfl

end Store.Command

namespace Store.Verb

/-- A text that selects rows and says where finds a row. -/
theorem ofTokens_select {before after : List Token} (ts : List Token)
    (hwhere : after.any (fun t => lowered t.text == "where") = true) :
    ofTokens (.word "SELECT" :: (before ++ (ts ++ after))) = some .find := by
  have hselect : lowered "SELECT" = "select" := by decide +kernel
  have hany : (Token.word "SELECT" :: (before ++ (ts ++ after))).any
      (fun t => lowered t.text == "where") = true := by
    simp [List.any_append, hwhere]
  simp only [ofTokens, hselect, hany, if_true]

/-- The places of two texts with a blank between them are those of both. -/
theorem literally_append (s t : String) :
    literally (s ++ " " ++ t) = literally s ++ literally t := by
  rw [literally, Token.scan_append_blank, List.map_append]
  rfl

end Store.Verb

namespace Store.TableName

/-- The name that a text gives a table by. What stands before the first point is the schema. -/
def ofChars (cs : List Char) : TableName :=
  let first := cs.takeWhile (· != '.')
  match cs.drop first.length with
  | [] => ⟨none, String.ofList first⟩
  | _ :: second => ⟨some (String.ofList first), String.ofList second⟩

/-- The tokens of a name. -/
def tokens (n : TableName) : List Token :=
  match n.schema with
  | none => [.word n.table]
  | some s => [.word s, .mark '.', .word n.table]

/-- Whether no part of a name is a word that the grammar keeps for itself. -/
def isFree (n : TableName) : Bool := n.schema.all (!isReserved ·) && !isReserved n.table

/-- A part of a table's name is a word. -/
theorem isWord_of_isName {cs : List Char} (h : Ledger.isName cs = true) :
    cs ≠ [] ∧ ∀ c ∈ cs, Token.isWordChar c = true := by
  match cs, h with
  | c :: cs, h =>
    simp only [Ledger.isName, Bool.and_eq_true, List.all_eq_true] at h
    refine ⟨by simp, fun d hd => ?_⟩
    rcases List.mem_cons.mp hd with rfl | hd
    · have hstart := h.1
      simp only [Ledger.startsName, Bool.or_eq_true] at hstart
      simp only [Token.isWordChar, Char.isAlphanum, Bool.or_eq_true]
      tauto
    · exact h.2 d hd

/-- A name of a table is one part, or two parts with a point between them. -/
theorem parts_of_isTableName {cs : List Char} (h : Ledger.isTableName cs = true) :
    (Ledger.isName cs = true ∧ ofChars cs = ⟨none, String.ofList cs⟩) ∨
      ∃ first second, cs = first ++ '.' :: second ∧ Ledger.isName first = true ∧
        Ledger.isName second = true ∧
        ofChars cs = ⟨some (String.ofList first), String.ofList second⟩ := by
  have hsplit := List.takeWhile_append_dropWhile (p := (· != '.')) (l := cs)
  have hdrop : cs.drop (cs.takeWhile (· != '.')).length = cs.dropWhile (· != '.') := by
    have hleft (first rest : List Char) : (first ++ rest).drop first.length = rest := List.drop_left
    simpa only [hsplit] using hleft (cs.takeWhile (· != '.')) (cs.dropWhile (· != '.'))
  unfold Ledger.isTableName at h
  unfold ofChars
  simp only [hdrop] at h ⊢
  cases hrest : cs.dropWhile (· != '.') with
  | nil =>
    rw [hrest, List.append_nil] at hsplit
    simp only [hrest, hsplit] at h ⊢
    exact .inl ⟨h, trivial⟩
  | cons c second =>
    have hpoint : c = '.' := by
      have := List.head?_dropWhile_not (· != '.') cs
      simpa [hrest] using this
    subst hpoint
    simp only [hrest, Bool.and_eq_true] at h ⊢
    rw [hrest] at hsplit
    exact .inr ⟨_, second, hsplit.symm, h.1, h.2, rfl⟩

/-- Beside characters of words a name of a table holds nothing but a point. -/
theorem notMem_of_isTableName {cs : List Char} (h : Ledger.isTableName cs = true) {c : Char}
    (hc : Token.isWordChar c = false) (hpoint : c ≠ '.') : c ∉ cs := by
  have hname {ds : List Char} (hds : Ledger.isName ds = true) : c ∉ ds := by
    intro hmem
    have := (isWord_of_isName hds).2 c hmem
    simp [hc] at this
  rcases parts_of_isTableName h with ⟨h, -⟩ | ⟨first, second, rfl, hfirst, hsecond, -⟩
  · exact hname h
  · simp [hname hfirst, hname hsecond, hpoint]

/-- The name of a ledger's table is cut into the tokens of that name. -/
theorem scan_of_isTableName {cs : List Char} (h : Ledger.isTableName cs = true) :
    Token.scan (String.ofList cs) = (ofChars cs).tokens := by
  rcases parts_of_isTableName h with ⟨h, hparts⟩ | ⟨first, second, rfl, hfirst, hsecond, hparts⟩
  · obtain ⟨hne, hword⟩ := isWord_of_isName h
    rw [hparts, Token.scan_word hne hword]
    rfl
  · obtain ⟨hne, hword⟩ := isWord_of_isName hfirst
    obtain ⟨hne', hword'⟩ := isWord_of_isName hsecond
    rw [hparts, Token.scan_pointed hne hne' hword hword']
    rfl

/-- A name that is free is read from its tokens, unless a point follows them. -/
theorem readTable_tokens {n : TableName} (hfree : n.isFree = true) {rest : List Token}
    (hrest : rest.head? ≠ some (.mark '.')) :
    Command.readTable (n.tokens ++ rest) = .ok (n, rest) := by
  obtain ⟨schema, table⟩ := n
  cases schema with
  | none =>
    have htable : isReserved table = false := by simpa [isFree] using hfree
    unfold Command.readTable tokens
    split
    · simp_all
    · simp_all [Command.nameOf, bind, Except.bind, pure, Except.pure]
    · simp_all
    · simp_all
  | some s =>
    simp only [isFree, Option.all_some, Bool.and_eq_true, Bool.not_eq_true'] at hfree
    simp [tokens, Command.readTable, Command.nameOf, hfree.1, hfree.2, bind, Except.bind, pure,
      Except.pure]

/-- A name that is not free is not read. -/
theorem readTable_tokens_of_not_free {n : TableName} (hfree : n.isFree = false) {rest : List Token}
    (hrest : rest.head? ≠ some (.mark '.')) :
    ∃ f, Command.readTable (n.tokens ++ rest) = .error f := by
  obtain ⟨schema, table⟩ := n
  cases schema with
  | none =>
    have htable : isReserved table = true := by simpa [isFree] using hfree
    refine ⟨.nearWord table, ?_⟩
    unfold Command.readTable tokens
    split
    · simp_all
    · simp_all [Command.nameOf, bind, Except.bind]
    · simp_all
    · simp_all
  | some s =>
    cases hs : isReserved s with
    | true =>
      exact ⟨.nearWord s, by simp [tokens, Command.readTable, Command.nameOf, hs, bind,
        Except.bind]⟩
    | false =>
      have htable : isReserved table = true := by simpa [isFree, hs] using hfree
      exact ⟨.nearWord table, by simp [tokens, Command.readTable, Command.nameOf, hs, htable, bind,
        Except.bind]⟩

end Store.TableName

namespace Handle

/-- Text without a mark of the other style reaches the store as it is. -/
theorem withMarks_append {cs : List Char} (hcs : '%' ∉ cs) (ds : List Char) :
    withMarks (cs ++ ds) = cs ++ withMarks ds := by
  induction cs with
  | nil => rfl
  | cons c cs ih =>
    simp only [List.mem_cons, not_or] at hcs
    rw [List.cons_append, withMarks, ih hcs.2, List.cons_append]
    intro rest hpercent
    exact absurd hpercent.symm hcs.1

/-- Between pieces without a mark of the other style the places are written as the store writes
them. -/
theorem withMarks_intercalate {mark : List Char}
    (hmark : ∀ ds, withMarks (mark ++ ds) = '?' :: withMarks ds) {pieces : List (List Char)}
    (hpieces : ∀ piece ∈ pieces, '%' ∉ piece) :
    withMarks (mark.intercalate pieces) = ['?'].intercalate pieces := by
  induction pieces with
  | nil => rfl
  | cons piece pieces ih =>
    obtain ⟨hpiece, hrest⟩ := List.forall_mem_cons.mp hpieces
    cases pieces with
    | nil =>
      have hlast := withMarks_append hpiece []
      rw [List.append_nil] at hlast
      rw [List.intercalate_singleton, List.intercalate_singleton, hlast]
      exact List.append_nil piece
    | cons next pieces =>
      rw [List.intercalate_cons_cons, List.append_assoc, withMarks_append hpiece, hmark, ih hrest,
        List.intercalate_cons_cons, List.append_assoc]
      rfl

end Handle

namespace PlaceholderStyle

/-- The styles that the store does not know write a place alike. -/
theorem mark_of_ne {style : PlaceholderStyle} (h : style ≠ .qmark) : style.mark = "%s" := by
  cases style with
  | qmark => exact absurd rfl h
  | format => rfl
  | pyformat => rfl

end PlaceholderStyle

namespace Ledger

open Store (Command Place TableName Token Verb)

/-- The name of the ledger's table. -/
def tableName (l : Ledger) : TableName := TableName.ofChars l.table.toList

/-! ## Statements without the names of their tables -/

/-- That no mark of any style begins in a text. -/
def IsMarkless (s : String) : Prop := '?' ∉ s.toList ∧ '%' ∉ s.toList

instance (s : String) : Decidable (IsMarkless s) :=
  inferInstanceAs (Decidable ('?' ∉ s.toList ∧ '%' ∉ s.toList))

/-- A name of a table is without marks. -/
theorem isMarkless_of_isTableName {table : String} (h : isTableName table.toList = true) :
    IsMarkless table :=
  ⟨TableName.notMem_of_isTableName h (by decide) (by decide),
    TableName.notMem_of_isTableName h (by decide) (by decide)⟩

/-- A statement without the name of its table. What follows the name depends on how a place for a
parameter is written. -/
structure Frame where
  verb : Verb
  before : String
  after : String → String

namespace Frame

/-- What the statement says that creates the table. -/
def create : Frame where
  verb := .create
  before := "CREATE TABLE IF NOT EXISTS"
  after _ := "(from_batch_num BIGINT PRIMARY KEY, to_batch_num BIGINT NOT NULL)"

/-- What the statement says that records a range. -/
def upsert : Frame where
  verb := .upsert
  before := "INSERT INTO"
  after mark := "(from_batch_num, to_batch_num) VALUES (" ++ mark ++ ", " ++ mark ++
    ") ON CONFLICT (from_batch_num) DO UPDATE SET " ++ "to_batch_num = excluded.to_batch_num"

/-- What the statement says that looks a range up. -/
def find : Frame where
  verb := .find
  before := "SELECT from_batch_num, to_batch_num FROM"
  after mark := "WHERE from_batch_num = " ++ mark

/-- The text of a statement of a ledger. -/
def text (f : Frame) (l : Ledger) : String :=
  f.before ++ " " ++ (l.table ++ " " ++ f.after l.style.mark)

/-- Two parts of a text that make one are put together, whatever follows them. -/
theorem append_append_eq {s t u : String} (h : s ++ t = u) (v : String) :
    s ++ (t ++ v) = u ++ v := by
  rw [← String.append_assoc, h]

theorem text_create (l : Ledger) : create.text l = l.schemaStatement.text := by
  have hbefore : "CREATE TABLE IF NOT EXISTS" ++ " " = "CREATE TABLE IF NOT EXISTS " := rfl
  have hafter : " " ++ "(from_batch_num BIGINT PRIMARY KEY, to_batch_num BIGINT NOT NULL)" =
      " (from_batch_num BIGINT PRIMARY KEY, to_batch_num BIGINT NOT NULL)" := rfl
  unfold text create schemaStatement
  simp only [String.append_assoc]
  rw [append_append_eq hbefore, hafter]

theorem text_upsert (l : Ledger) (first last : Value) :
    upsert.text l = (l.addStatement first last).text := by
  have hbefore : "INSERT INTO" ++ " " = "INSERT INTO " := rfl
  have hafter : " " ++ "(from_batch_num, to_batch_num) VALUES (" =
      " (from_batch_num, to_batch_num) VALUES (" := rfl
  unfold text upsert addStatement
  simp only [String.append_assoc]
  rw [append_append_eq hbefore, append_append_eq hafter]

theorem text_find (l : Ledger) (first : Value) : find.text l = (l.getStatement first).text := by
  have hbefore : "SELECT from_batch_num, to_batch_num FROM" ++ " " =
      "SELECT from_batch_num, to_batch_num FROM " := rfl
  have hafter : " " ++ "WHERE from_batch_num = " = " WHERE from_batch_num = " := rfl
  unfold text find getStatement
  simp only [String.append_assoc]
  rw [append_append_eq hbefore, append_append_eq hafter]

theorem toList_text (f : Frame) (l : Ledger) : (f.text l).toList =
    f.before.toList ++ ' ' :: (l.table.toList ++ ' ' :: (f.after l.style.mark).toList) := by
  have hblank : " ".toList = [' '] := rfl
  simp only [text, String.toList_append, hblank, List.append_assoc, List.cons_append,
    List.nil_append]

/-- That a frame is put together from pieces without marks, with `n` places between those that
follow the name of the table. -/
structure HasPlaces (f : Frame) (n : Nat) : Prop where
  before : IsMarkless f.before
  after : ∃ pieces : List String, pieces.length = n + 1 ∧
    (∀ mark, f.after mark = mark.intercalate pieces) ∧ ∀ piece ∈ pieces, IsMarkless piece

theorem create_hasPlaces : create.HasPlaces 0 where
  before := by decide
  after := ⟨[create.after ""], rfl, fun _ => String.intercalate_singleton.symm,
    by decide +kernel⟩

theorem upsert_hasPlaces : upsert.HasPlaces 2 where
  before := by decide
  after := by
    refine ⟨["(from_batch_num, to_batch_num) VALUES (", ", ",
      ") ON CONFLICT (from_batch_num) DO UPDATE SET " ++ "to_batch_num = excluded.to_batch_num"],
      rfl, fun mark => ?_, by decide +kernel⟩
    simp only [upsert, String.intercalate_cons_cons, String.intercalate_singleton,
      String.append_assoc]

theorem find_hasPlaces : find.HasPlaces 1 where
  before := by decide
  after := by
    refine ⟨["WHERE from_batch_num = ", ""], rfl, fun mark => ?_, by decide⟩
    simp only [find, String.intercalate_cons_cons, String.intercalate_singleton,
      String.append_empty]

/-- The places of a frame are written as the store writes them, and nothing else is. -/
theorem HasPlaces.withMarks_after {f : Frame} {n : Nat} (hf : f.HasPlaces n)
    (style : PlaceholderStyle) :
    Handle.withMarks (f.after style.mark).toList = (f.after "?").toList := by
  obtain ⟨pieces, -, hafter, hpieces⟩ := hf.after
  have hmark (ds : List Char) :
      Handle.withMarks (style.mark.toList ++ ds) = '?' :: Handle.withMarks ds := by
    cases style <;> rfl
  have hmarkless : ∀ piece ∈ pieces.map String.toList, '%' ∉ piece := by
    intro piece hpiece
    obtain ⟨s, hs, rfl⟩ := List.mem_map.mp hpiece
    exact (hpieces s hs).2
  rw [hafter, hafter, String.toList_intercalate, String.toList_intercalate,
    Handle.withMarks_intercalate hmark hmarkless]
  rfl

/-- That the words of a frame are those of its verb, that a name of a table between them is read to
its end, and that they are the same in all styles once the places are written as the store writes
them. -/
structure Lawful (f : Frame) : Prop where
  form : f.verb.form = Verb.literally f.before ++ .table :: Verb.literally (f.after "?")
  verb : ∀ (style : PlaceholderStyle) (ts : List Token),
    Verb.ofTokens (Token.scan f.before ++ (ts ++ Token.scan (f.after style.mark))) = some f.verb
  head : ∀ style : PlaceholderStyle,
    (Token.scan (f.after style.mark)).head? ≠ some (.mark '.')
  before : '%' ∉ f.before.toList
  after : ∀ style : PlaceholderStyle,
    Handle.withMarks (f.after style.mark).toList = (f.after "?").toList

theorem create_lawful : create.Lawful where
  form := rfl
  verb _ _ := rfl
  head _ := (by decide : (Token.scan (create.after "?")).head? ≠ some (.mark '.'))
  before := create_hasPlaces.before.2
  after := create_hasPlaces.withMarks_after

theorem upsert_lawful : upsert.Lawful where
  form := by
    have hafter : upsert.after "?" = "(from_batch_num, to_batch_num) VALUES (?, ?)" ++ " " ++
        ("ON CONFLICT (from_batch_num)" ++ " " ++
          "DO UPDATE SET to_batch_num = excluded.to_batch_num") := by decide +kernel
    rw [hafter, Verb.literally_append, Verb.literally_append]
    simp only [upsert, Verb.form, List.append_assoc, List.cons_append, List.nil_append]
  verb _ _ := rfl
  head style := by cases style <;> decide +kernel
  before := upsert_hasPlaces.before.2
  after := upsert_hasPlaces.withMarks_after

theorem find_lawful : find.Lawful where
  form := by
    have hafter : find.after "?" = "WHERE from_batch_num = ?" := by decide
    rw [hafter]
    simp only [find, Verb.form, List.append_assoc, List.cons_append, List.nil_append]
  verb style ts := by
    refine Verb.ofTokens_select ts ?_
    cases style <;> decide +kernel
  head style := by cases style <;> decide +kernel
  before := find_hasPlaces.before.2
  after := find_hasPlaces.withMarks_after

/-- That a statement has a place for a parameter. The first one is the first thing on which styles
differ. -/
def TakesParameter (f : Frame) : Prop :=
  ∃ (a : String) (b : String → String), ∀ mark, f.after mark = a ++ mark ++ b mark

theorem upsert_takesParameter : upsert.TakesParameter := by
  refine ⟨"(from_batch_num, to_batch_num) VALUES (", fun mark => ", " ++ mark ++
    ") ON CONFLICT (from_batch_num) DO UPDATE SET " ++ "to_batch_num = excluded.to_batch_num",
    fun mark => ?_⟩
  simp only [upsert, String.append_assoc]

theorem find_takesParameter : find.TakesParameter :=
  ⟨"WHERE from_batch_num = ", fun _ => "", fun _ => String.append_empty.symm⟩

/-! ## What the store understands -/

section

variable {f : Frame} (hf : f.Lawful) {l : Ledger} (hname : isTableName l.table.toList = true)

include hf hname

/-- A statement is understood by reading the name of its table and what follows the name. -/
theorem ofText_text_eq : Command.ofText (f.text l) =
    match Command.readTable (l.tableName.tokens ++ Token.scan (f.after l.style.mark)) >>=
      fun (name, rest) => Command.fit (Verb.literally (f.after "?")) (some name) rest with
    | .ok (some table) => .ok ⟨f.verb, table⟩
    | .ok none => .error (.nearWord "")
    | .error e => .error e := by
  have htable : Token.scan l.table = l.tableName.tokens := by
    have h := TableName.scan_of_isTableName hname
    rwa [String.ofList_toList] at h
  have hscan : Token.scan (f.text l) = Token.scan f.before ++
      (l.tableName.tokens ++ Token.scan (f.after l.style.mark)) := by
    rw [text, Token.scan_append_blank, Token.scan_append_blank, htable]
  unfold Command.ofText
  simp only [hscan, hf.verb]
  rewrite [hf.form, Command.fit_literally, Command.fit]
  rfl

/-- No statement on a name that is not free is understood. -/
theorem ofText_text_of_not_free (hfree : l.tableName.isFree = false) :
    ∃ e, Command.ofText (f.text l) = .error e := by
  obtain ⟨e, he⟩ := TableName.readTable_tokens_of_not_free hfree (hf.head l.style)
  exact ⟨e, by rw [ofText_text_eq hf hname, he]; rfl⟩

variable (hfree : l.tableName.isFree = true)

include hfree

/-- A statement whose places are written as the store writes them is understood. -/
theorem ofText_text (hmark : f.after l.style.mark = f.after "?") :
    Command.ofText (f.text l) = .ok ⟨f.verb, l.tableName⟩ := by
  have hfit := Command.fit_literally (f.after "?") [] (some l.tableName) []
  simp only [List.append_nil] at hfit
  rw [ofText_text_eq hf hname, TableName.readTable_tokens hfree (hf.head l.style), hmark]
  simp only [bind, Except.bind, hfit]
  rfl

/-- A statement is refused at its first place in the other style. -/
theorem ofText_text_of_ne (hplace : f.TakesParameter) (hstyle : l.style ≠ .qmark) :
    Command.ofText (f.text l) = .error (.nearWord "%") := by
  obtain ⟨a, b, hafter⟩ := hplace
  rw [ofText_text_eq hf hname, TableName.readTable_tokens hfree (hf.head l.style)]
  simp only [bind, Except.bind, PlaceholderStyle.mark_of_ne hstyle, hafter,
    Command.fit_foreignMark]

end

end Frame

end Ledger

/-! ## Handles -/

namespace Handle

open Store (Command)

/-- A ledger as its statements reach the store. -/
def reaching (h : Handle) (l : Ledger) : Ledger :=
  match h with
  | .formatting => { l with style := .qmark }
  | _ => l

theorem table_reaching (h : Handle) (l : Ledger) : (h.reaching l).table = l.table := by
  cases h <;> rfl

/-- Whether the places for parameters in a ledger's statements reach the store in its own style. -/
def suits (h : Handle) (l : Ledger) : Bool := (h.reaching l).style == .qmark

theorem mark_reaching {h : Handle} {l : Ledger} (hsuits : h.suits l = true) :
    (h.reaching l).style.mark = "?" := by
  rw [eq_of_beq hsuits]
  rfl

section

variable {f : Ledger.Frame} (hf : f.Lawful) {l : Ledger}
  (hname : Ledger.isTableName l.table.toList = true) (h : Handle)

include hf hname

/-- A statement reaches the store as that of the ledger with the style of the store. -/
theorem prepared_text : h.prepared (f.text l) = f.text (h.reaching l) := by
  cases h with
  | connection => rfl
  | cursor => rfl
  | formatting =>
    have hpercent := (Ledger.isMarkless_of_isTableName hname).2
    have hblank (cs : List Char) : withMarks (' ' :: cs) = ' ' :: withMarks cs := rfl
    have hmarks : withMarks (f.text l).toList =
        (f.text { l with style := .qmark }).toList := by
      rw [f.toList_text, withMarks_append hf.before, hblank, withMarks_append hpercent, hblank,
        hf.after, f.toList_text]
      rfl
    rw [prepared, hmarks, String.ofList_toList]
    rfl

variable (hfree : l.tableName.isFree = true)

include hfree

/-- A statement is understood if its places reach the store in the store's style. -/
theorem ofText_prepared (hmark : f.after (h.reaching l).style.mark = f.after "?") :
    Command.ofText (h.prepared (f.text l)) = .ok ⟨f.verb, l.tableName⟩ := by
  have htable := h.table_reaching l
  rw [prepared_text hf hname]
  rw [← htable] at hname
  rw [Ledger.tableName, ← htable] at hfree ⊢
  exact Ledger.Frame.ofText_text hf hname hfree hmark

/-- A statement with a place for a parameter is refused through a handle that does not suit the
ledger. -/
theorem ofText_prepared_of_not_suits (hplace : f.TakesParameter) (hsuits : h.suits l = false) :
    Command.ofText (h.prepared (f.text l)) = .error (.nearWord "%") := by
  have htable := h.table_reaching l
  rw [prepared_text hf hname]
  rw [← htable] at hname
  rw [Ledger.tableName, ← htable] at hfree
  exact Ledger.Frame.ofText_text_of_ne hf hname hfree hplace (ne_of_beq_false hsuits)

end

end Handle

namespace Ledger

/-! ## What a ledger carries out -/

open Store (Connection)

/-- Creating the table is carrying out a statement. -/
theorem createSchema_eq (l : Ledger) (handle : Handle) (c : Connection) :
    l.createSchema handle c = ((handle.execute c l.schemaStatement).1,
      (handle.execute c l.schemaStatement).2.map fun _ => ()) := by
  unfold createSchema
  cases handle.execute c l.schemaStatement
  rfl

/-- Recording a range is carrying out a statement. -/
theorem add_eq (l : Ledger) (handle : Handle) (c : Connection) (first last : Value) :
    l.add handle c first last = ((handle.execute c (l.addStatement first last)).1,
      (handle.execute c (l.addStatement first last)).2.map fun _ => ()) := by
  unfold add
  cases handle.execute c (l.addStatement first last)
  rfl

/-- A connection is given the text of a statement as it is. -/
theorem execute_connection (c : Connection) (s : Statement) :
    Handle.connection.execute c s = c.execute s.text s.parameters := by
  rw [Handle.execute, Handle.prepared]
  intro h
  cases h

/-- Wherever a handle offers its rows, the first of them is fetched. -/
theorem fetchFirst_offer (h : Handle) (rows : List Store.Row) :
    (h.offer rows).fetchFirst = .ok ((rows.head?.map rowValue).getD .nothing) := by
  cases h <;> rfl

/-- Looking a range up is carrying out a statement and reading the first row. -/
theorem get?_eq (l : Ledger) (h : Handle) (c : Connection) (first : Value) :
    l.get? h c first = ((h.execute c (l.getStatement first)).1,
      (h.execute c (l.getStatement first)).2 >>= fun rows =>
        sequenceOf ((rows.head?.map rowValue).getD .nothing)) := by
  unfold get?
  simp only [fetchFirst_offer]
  cases h.execute c (l.getStatement first)
  rfl

end Ledger

end BatchFrontier
