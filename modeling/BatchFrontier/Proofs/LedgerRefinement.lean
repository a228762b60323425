import BatchFrontier.Proofs.CommandTables
import BatchFrontier.Proofs.Runs

/-!
# A ledger keeps books

Along every run on one connection a table of ranges behaves like a pair of books, the committed and
the working one. Recording a range enters it in the working book; a commit copies the working book
to the committed one, and a rollback copies it back. Making the table again does nothing.

A recorded range replaces the one with the same first batch, with one exception: in a table called
`excluded` the statement that records reads back the row that is there, and the old range stays.
-/

namespace BatchFrontier.Ledger

open Store (Command Connection Database Home Rule)

/-! ## Steps -/

/-- What is done on a connection, through ledgers and handles of it. -/
inductive Step where
  | schema (l : Ledger) (h : Handle)
  | add (l : Ledger) (h : Handle) (first last : Int64)
  | get (l : Ledger) (h : Handle) (first : Int64)
  | commit
  | rollback
  deriving Repr

namespace Step

/-- Takes a step. Only looking up a range gives one. -/
def perform (c : Connection) : Step → Connection × Except Fault (Option Sequence)
  | .schema l h => ((l.createSchema h c).1, (l.createSchema h c).2.map fun _ => none)
  | .add l h first last =>
    ((l.add h c (.integer first.toInt) (.integer last.toInt)).1,
      (l.add h c (.integer first.toInt) (.integer last.toInt)).2.map fun _ => none)
  | .get l h first => l.get? h c (.integer first.toInt)
  | .commit => (c.commit.1, c.commit.2.map fun _ => none)
  | .rollback => (c.rollback, .ok none)

/-- That a step goes through a ledger that names the table of a home, if it goes through one. -/
def IsOn (home? : Option Home) : Step → Prop
  | .schema l _ | .add l _ _ _ | .get l _ _ =>
    isTableName l.table.toList = true ∧ l.tableName.home? = home?
  | .commit | .rollback => True

/-- Whether a step makes the table. -/
def isSchema : Step → Bool
  | .schema _ _ => true
  | _ => false

end Step

/-! ## Books -/

/-- The ranges of a table by their first batches: those that are committed, and those that are read
and written. -/
structure Books where
  isMade : Bool
  committed : Int64 → Option Int64
  working : Int64 → Option Int64

namespace Books

/-- The books without a table. -/
def unmade : Books := ⟨false, fun _ => none, fun _ => none⟩

/-- The books of an empty table. -/
def blank : Books := ⟨true, fun _ => none, fun _ => none⟩

/-- Takes a step on the books; nothing is answered to a step that is refused. -/
def step (rule : Rule) (b : Books) : Step → Books × Option (Option Sequence)
  | .schema _ _ => (if b.isMade then b else blank, some none)
  | .add l h first last =>
    if b.isMade && h.suits l then
      ({ b with working := rule.record b.working first last }, some none)
    else (b, none)
  | .get l h first =>
    if b.isMade && h.suits l then
      (b, some ((b.working first).map fun last => ⟨first.toInt, last.toInt⟩))
    else (b, none)
  | .commit => ({ b with committed := b.working }, some none)
  | .rollback => ({ b with working := b.committed }, some none)

end Books

/-- The row of a range is read as that range. -/
theorem sequenceOf_ofRange (first last : Int64) :
    sequenceOf (rowValue (.ofRange (first, last))) = .ok (some ⟨first.toInt, last.toInt⟩) := rfl

/-! ## Connections that follow books -/

/-- That a connection follows books: nothing stands in the way of writing, and its tables hold what
the books say. Without a table no transaction is open, and every text that was read lately makes the
table. -/
structure Follows (home : Home) (c : Connection) (b : Books) : Prop where
  barrier : c.barrier = none
  isDamaged : c.isDamaged = false
  settled : c.pending = none → b.working = b.committed
  unmade : b.isMade = false → b = .unmade ∧ c.committed = .empty ∧ c.pending = none ∧
    ∀ text ∈ c.recent, ∃ n, Command.ofText text = .ok ⟨.create, n⟩
  made : b.isMade = true → c.committed.Records home b.committed ∧ c.working.Records home b.working

namespace Follows

variable {home : Home} {c e : Connection} {b : Books} {m m' : Int64 → Option Int64}

/-- A new connection follows the books without a table. -/
theorem new (home : Home) : Follows home (.ofDatabase .empty) .unmade where
  barrier := rfl
  isDamaged := rfl
  settled _ := rfl
  unmade _ := ⟨rfl, rfl, rfl, fun _ h => absurd h List.not_mem_nil⟩
  made h := absurd h Bool.false_ne_true

/-- A connection with a table follows the books of the ranges in it. -/
theorem of_records (hbarrier : c.barrier = none) (hdamage : c.isDamaged = false)
    (hsettled : c.pending = none → m' = m) (hcommitted : c.committed.Records home m)
    (hworking : c.working.Records home m') : Follows home c ⟨true, m, m'⟩ where
  barrier := hbarrier
  isDamaged := hdamage
  settled := hsettled
  unmade h := absurd h.symm Bool.false_ne_true
  made _ := ⟨hcommitted, hworking⟩

/-- Connections that are alike follow the same books. -/
theorem of_alike (h : Follows home c b) (ha : e.Alike c) : Follows home e b where
  barrier := ha.barrier.trans h.barrier
  isDamaged := ha.isDamaged.trans h.isDamaged
  settled hp := h.settled (ha.pending.symm.trans hp)
  unmade hm := by
    rw [ha.committed, ha.pending, ha.recent]
    exact h.unmade hm
  made hm := by
    rw [ha.committed, ha.working]
    exact h.made hm

/-- A transaction is only open where there is a table. -/
theorem isMade_of_pending (h : Follows home c b) {d : Database} (hp : c.pending = some d) :
    b.isMade = true := by
  by_contra hm
  have hnone := (h.unmade (by simpa using hm)).2.2.1
  simp [hp] at hnone

/-- A text that is read and leaves the tables as they are keeps the books of a table. -/
theorem keep_working (h : Follows home c ⟨true, m, m'⟩) (text : String) :
    Follows home ((c.remember text).keep c.working) ⟨true, m, m'⟩ := by
  obtain ⟨hcommitted, hworking⟩ := h.made rfl
  cases hp : c.pending with
  | none =>
    have hdrop : c.working = c.committed := by rw [Connection.working, hp, Option.getD_none]
    have hkeep : (c.remember text).keep c.working =
        { c.remember text with lastFailure := none } := by
      simp [Connection.keep, Connection.remember, hp, hdrop]
    rw [hkeep]
    exact of_records h.barrier h.isDamaged h.settled hcommitted hworking
  | some d =>
    have hdrop : c.working = d := by rw [Connection.working, hp, Option.getD_some]
    have hkeep : (c.remember text).keep c.working =
        { c.remember text with lastFailure := none } := by
      simp [Connection.keep, Connection.remember, hp, hdrop]
    rw [hkeep]
    exact of_records h.barrier h.isDamaged h.settled hcommitted hworking

/-- A range that is recorded is entered in the working book, in a transaction. -/
theorem keep_recorded (h : Follows home c ⟨true, m, m'⟩) (text : String)
    {m'' : Int64 → Option Int64} {d : Database} (hd : d.Records home m'') :
    Follows home ((c.remember text).begin.keep d) ⟨true, m, m''⟩ := by
  have hkeep : (c.remember text).begin.keep d =
      { c.remember text with pending := some d, lastFailure := none } := by
    cases hp : c.pending <;> simp [Connection.keep, Connection.begin, Connection.remember, hp]
  rw [hkeep]
  exact of_records h.barrier h.isDamaged (by simp) (h.made rfl).1 hd

/-- A table that is made where there is none is committed at once. -/
theorem keep_made (h : Follows home c .unmade) (text : String) {d : Database}
    (hd : d.Records home fun _ => none) : Follows home ((c.remember text).keep d) .blank := by
  obtain ⟨-, -, hp, -⟩ := h.unmade rfl
  have hkeep : (c.remember text).keep d =
      { c.remember text with committed := d, pending := none, lastFailure := none } := by
    simp [Connection.keep, Connection.remember, hp]
  rw [hkeep]
  exact of_records h.barrier h.isDamaged (fun _ => rfl) hd hd

/-- A commit copies the working book to the committed one. -/
theorem commit (h : Follows home c b) :
    Follows home c.commit.1 { b with committed := b.working } ∧ c.commit.2 = .ok () := by
  cases hp : c.pending with
  | none =>
    have hnothing : c.commit = (c, .ok ()) := by rw [Connection.commit, hp]
    obtain ⟨isMade, committed, working⟩ := b
    obtain rfl : working = committed := h.settled hp
    rw [hnothing]
    exact ⟨h, rfl⟩
  | some d =>
    obtain ⟨isMade, committed, working⟩ := b
    obtain rfl : isMade = true := h.isMade_of_pending hp
    have hd : d.Records home working := by
      simpa only [Connection.working, hp, Option.getD_some] using (h.made rfl).2
    simp only [Connection.commit, hp, h.isDamaged, Bool.false_eq_true, if_false]
    exact ⟨of_records h.barrier rfl (fun _ => rfl) hd hd, trivial⟩

/-- A rollback copies the committed book to the working one. -/
theorem rollback (h : Follows home c b) :
    Follows home c.rollback { b with working := b.committed } := by
  cases hp : c.pending with
  | none =>
    have hnothing : c.rollback = c := by rw [Connection.rollback, hp]
    obtain ⟨isMade, committed, working⟩ := b
    obtain rfl : working = committed := h.settled hp
    rw [hnothing]
    exact h
  | some d =>
    obtain ⟨isMade, committed, working⟩ := b
    obtain rfl : isMade = true := h.isMade_of_pending hp
    have hcommitted := (h.made rfl).1
    simp only [Connection.rollback, hp]
    exact of_records h.barrier rfl (fun _ => rfl) hcommitted hcommitted

section

variable {l : Ledger} (hhome : l.tableName.home? = some home) (handle : Handle) {s : Statement}

include hhome

/-- A statement that is understood is carried out where there is a table. -/
theorem execute_made (h : Follows home c ⟨true, m, m'⟩) {verb : Store.Verb}
    (htext : Command.ofText (handle.prepared s.text) = .ok ⟨verb, l.tableName⟩)
    {cells : List Store.Cell} (hcells : Store.Cell.ofValues 1 s.parameters = .ok cells)
    {d : Database} {rows : List Store.Row}
    (hrun : ∀ known, c.working.run known ⟨verb, l.tableName⟩ cells = .ok (d, rows)) :
    (handle.execute c s).1.Alike
        (((c.remember (handle.prepared s.text)).opened verb).keep d) ∧
      (handle.execute c s).2 = .ok rows :=
  Connection.execute_of_allowed htext h.barrier h.isDamaged
    (fun known => Database.check_of_records hhome (h.made rfl).2 known verb) hcells hrun

/-- A statement that needs a table is refused where there is none. -/
theorem execute_unmade (h : Follows home c .unmade) {verb : Store.Verb} (hverb : verb ≠ .create)
    (htext : Command.ofText (handle.prepared s.text) = .ok ⟨verb, l.tableName⟩) :
    Follows home (handle.execute c s).1 .unmade ∧ ∃ f, (handle.execute c s).2 = .error f := by
  obtain ⟨-, hcommitted, hp, hrecent⟩ := h.unmade rfl
  have hempty : c.working = .empty := by rw [Connection.working, hp, Option.getD_none, hcommitted]
  have hnew : handle.prepared s.text ∉ c.recent := by
    intro hmem
    obtain ⟨n, hn⟩ := hrecent _ hmem
    rw [htext, Except.ok.injEq, Command.mk.injEq] at hn
    exact hverb hn.1
  obtain ⟨halike, f, herror⟩ := Connection.execute_of_not_allowed htext hnew
    (fun known => by rw [hempty]; exact Database.check_empty hhome known hverb) s.parameters
  exact ⟨h.of_alike halike, _, herror⟩

omit hhome in
/-- A statement that is not understood is refused. -/
theorem execute_of_not_command (h : Follows home c b) {f : Store.Fault}
    (htext : Command.ofText (handle.prepared s.text) = .error f) :
    Follows home (handle.execute c s).1 b ∧ ∃ f, (handle.execute c s).2 = .error f := by
  obtain ⟨halike, herror⟩ := Connection.execute_of_not_command (c := c) htext s.parameters
  exact ⟨h.of_alike halike, _, herror⟩

variable (hname : isTableName l.table.toList = true)

include hname

/-- Creating the table makes it where there is none, and changes nothing where there is one. -/
theorem createSchema (h : Follows home c b) :
    Follows home (l.createSchema handle c).1 (if b.isMade then b else .blank) ∧
      (l.createSchema handle c).2 = .ok () := by
  have hfree := (Store.TableName.home?_eq_some.mp hhome).1
  have htext := Handle.ofText_prepared Frame.create_lawful hname handle hfree rfl
  rw [Frame.text_create] at htext
  have hcells : Store.Cell.ofValues 1 l.schemaStatement.parameters = .ok [] := rfl
  unfold Ledger.createSchema
  obtain ⟨isMade, m, m'⟩ := b
  cases isMade with
  | false =>
    obtain ⟨hunmade, hcommitted, hp, -⟩ := h.unmade rfl
    rw [hunmade] at h
    have hempty : c.working = .empty := by rw [Connection.working, hp, Option.getD_none, hcommitted]
    obtain ⟨halike, hrows⟩ := Connection.execute_of_allowed htext h.barrier h.isDamaged
      (Database.check_create hhome c.working) hcells
      (fun known => by rw [hempty]; exact Database.run_create_empty hhome known)
    exact ⟨(h.keep_made _ (Database.records_made hhome)).of_alike halike,
      congrArg (Except.map fun _ => ()) hrows⟩
  | true =>
    obtain ⟨halike, hrows⟩ := h.execute_made hhome handle htext hcells
      (Database.run_create_of_records hhome (h.made rfl).2)
    exact ⟨(h.keep_working _).of_alike halike, congrArg (Except.map fun _ => ()) hrows⟩

/-- Recording a range enters it in the working book, if there is a table and the statement is
understood. -/
theorem add (h : Follows home c b) (first last : Int64) :
    Follows home (Step.perform c (.add l handle first last)).1
        (b.step (.ofName home.name) (.add l handle first last)).1 ∧
      (Step.perform c (.add l handle first last)).2.toOption =
        (b.step (.ofName home.name) (.add l handle first last)).2 := by
  have hfree := (Store.TableName.home?_eq_some.mp hhome).1
  let s := l.addStatement (.integer first.toInt) (.integer last.toInt)
  have hperform : Step.perform c (.add l handle first last) =
      ((handle.execute c s).1,
        ((handle.execute c s).2.map fun _ => ()).map fun _ => none) := rfl
  have hcells : Store.Cell.ofValues 1 s.parameters =
      .ok [.integer first.toInt, .integer last.toInt] :=
    Store.Cell.ofValues_toInt 1 [first, last]
  rw [hperform]
  cases hsuits : handle.suits l with
  | false =>
    have htext := Handle.ofText_prepared_of_not_suits Frame.upsert_lawful hname handle hfree
      Frame.upsert_takesParameter hsuits
    rw [Frame.text_upsert l (.integer first.toInt) (.integer last.toInt)] at htext
    obtain ⟨hfollows, f, hf⟩ := h.execute_of_not_command handle htext
    simpa [Books.step, hsuits, s, hf, Except.map, Except.toOption] using hfollows
  | true =>
    have htext := Handle.ofText_prepared Frame.upsert_lawful hname handle hfree
      (congrArg Frame.upsert.after (Handle.mark_reaching hsuits))
    rw [Frame.text_upsert l (.integer first.toInt) (.integer last.toInt)] at htext
    obtain ⟨isMade, m, m'⟩ := b
    cases isMade with
    | false =>
      have hunmade := (h.unmade rfl).1
      rw [hunmade] at h ⊢
      obtain ⟨hfollows, f, hf⟩ := h.execute_unmade hhome handle (by decide) htext
      simpa [Books.step, Books.unmade, s, hf, Except.map, Except.toOption] using hfollows
    | true =>
      obtain ⟨d, hd, hrun⟩ :=
        Database.run_upsert_of_records hhome (h.made rfl).2 first last
      obtain ⟨halike, hrows⟩ := h.execute_made hhome handle htext hcells hrun
      have hfollows := (h.keep_recorded (handle.prepared s.text) hd).of_alike halike
      simpa [Books.step, hsuits, s, hrows, Except.map, Except.toOption] using hfollows

/-- Looking up a first batch answers from the working book, if there is a table and the statement is
understood. -/
theorem get (h : Follows home c b) (rule : Rule) (first : Int64) :
    Follows home (Step.perform c (.get l handle first)).1
        (b.step rule (.get l handle first)).1 ∧
      (Step.perform c (.get l handle first)).2.toOption =
        (b.step rule (.get l handle first)).2 := by
  have hfree := (Store.TableName.home?_eq_some.mp hhome).1
  let s := l.getStatement (.integer first.toInt)
  have hperform : Step.perform c (.get l handle first) =
      ((handle.execute c s).1, (handle.execute c s).2.bind fun rows =>
        sequenceOf ((rows.head?.map rowValue).getD .nothing)) :=
    get?_eq l handle c (.integer first.toInt)
  have hcells : Store.Cell.ofValues 1 s.parameters = .ok [.integer first.toInt] :=
    Store.Cell.ofValues_toInt 1 [first]
  rw [hperform]
  cases hsuits : handle.suits l with
  | false =>
    have htext := Handle.ofText_prepared_of_not_suits Frame.find_lawful hname handle hfree
      Frame.find_takesParameter hsuits
    rw [Frame.text_find l (.integer first.toInt)] at htext
    obtain ⟨hfollows, f, hf⟩ := h.execute_of_not_command handle htext
    simpa [Books.step, hsuits, s, hf, Except.bind, Except.toOption] using hfollows
  | true =>
    have htext := Handle.ofText_prepared Frame.find_lawful hname handle hfree
      (congrArg Frame.find.after (Handle.mark_reaching hsuits))
    rw [Frame.text_find l (.integer first.toInt)] at htext
    obtain ⟨isMade, m, m'⟩ := b
    cases isMade with
    | false =>
      have hunmade := (h.unmade rfl).1
      rw [hunmade] at h ⊢
      obtain ⟨hfollows, f, hf⟩ := h.execute_unmade hhome handle (by decide) htext
      simpa [Books.step, Books.unmade, s, hf, Except.bind, Except.toOption] using hfollows
    | true =>
      obtain ⟨halike, hrows⟩ := h.execute_made hhome handle htext hcells
        (fun known => Database.run_find_of_records hhome (h.made rfl).2 known first)
      have hfollows := (h.keep_working (handle.prepared s.text)).of_alike halike
      refine ⟨by simpa [Books.step, hsuits] using hfollows, ?_⟩
      rw [hrows]
      cases hlast : m' first with
      | none => simp [Books.step, hsuits, hlast, Except.bind, sequenceOf, Except.toOption]
      | some last =>
        simp [Books.step, hsuits, hlast, Except.bind, sequenceOf_ofRange, Except.toOption]

end

/-- Every step that names the table of a home is a step on the books. -/
theorem step (h : Follows home c b) {s : Step} (hs : s.IsOn (some home)) :
    Follows home (s.perform c).1 (b.step (.ofName home.name) s).1 ∧
      (s.perform c).2.toOption = (b.step (.ofName home.name) s).2 := by
  cases s with
  | schema l handle =>
    obtain ⟨hfollows, hanswer⟩ := h.createSchema hs.2 handle hs.1
    refine ⟨hfollows, ?_⟩
    rw [Step.perform, hanswer]
    rfl
  | add l handle first last => exact h.add hs.2 handle hs.1 first last
  | get l handle first => exact h.get hs.2 handle hs.1 _ first
  | commit =>
    obtain ⟨hfollows, hanswer⟩ := h.commit
    refine ⟨hfollows, ?_⟩
    rw [Step.perform, hanswer]
    rfl
  | rollback => exact ⟨h.rollback, rfl⟩

end Follows

/-- A ledger whose table the store makes on a new connection has a home for it. -/
theorem exists_home_of_createSchema {l : Ledger} (hname : isTableName l.table.toList = true)
    (hmakes : (l.createSchema .connection (.ofDatabase .empty)).2 = .ok ()) :
    ∃ home, l.tableName.home? = some home := by
  have hexecute : ∃ rows, (Connection.execute (.ofDatabase .empty) l.schemaStatement.text []).2 =
      .ok rows := by
    cases hrows : (Connection.execute (.ofDatabase .empty) l.schemaStatement.text []).2 with
    | ok rows => exact ⟨rows, rfl⟩
    | error f =>
      have hcreate : (l.createSchema .connection (.ofDatabase .empty)).2 =
          (Connection.execute (.ofDatabase .empty) l.schemaStatement.text []).2.map
            fun _ => () := rfl
      rw [hcreate, hrows] at hmakes
      exact absurd hmakes (by simp [Except.map])
  obtain ⟨rows, hrows⟩ := hexecute
  obtain ⟨command, cells, known, d, hcommand, -, hrun, -⟩ := Connection.execute_of_ok _ _ hrows
  rw [← Frame.text_create] at hcommand
  have hfree : l.tableName.isFree = true := by
    by_contra hfree
    obtain ⟨f, hf⟩ := Frame.ofText_text_of_not_free Frame.create_lawful hname (by simpa using hfree)
    exact absurd (hcommand.symm.trans hf) (by simp)
  rw [Frame.ofText_text Frame.create_lawful hname hfree rfl] at hcommand
  obtain rfl := Except.ok.inj hcommand
  exact Database.home?_of_run_create hfree hrun

/-! ## Runs -/

/-- The end of a range after some steps, the last one first: that of the last time that the range
was recorded and not undone. A rollback undoes what was recorded since the commit before it. -/
def lastStanding (first : Int64) (undone : Bool) : List Step → Option Int64
  | [] => none
  | .add l h f last :: past =>
    if !undone && f == first && h.suits l && past.any Step.isSchema then some last
    else lastStanding first undone past
  | .commit :: past => lastStanding first false past
  | .rollback :: past => lastStanding first true past
  | _ :: past => lastStanding first undone past

/-- Nothing is recorded before the table is made. -/
theorem lastStanding_of_no_schema {past : List Step} (h : past.any Step.isSchema = false)
    (first : Int64) (undone : Bool) : lastStanding first undone past = none := by
  induction past generalizing undone with
  | nil => rfl
  | cons s past ih =>
    simp only [List.any_cons, Bool.or_eq_false_iff] at h
    cases s with
    | add l handle f last => simp [lastStanding, h.2, ih h.2]
    | _ => exact ih h.2 _

/-- The books after some steps, the last one first. -/
theorem Books.eq_lastStanding (past : List Step) :
    (Run.along (Books.step .replace) .unmade past.reverse).1 =
      ⟨past.any Step.isSchema, fun first => lastStanding first true past,
        fun first => lastStanding first false past⟩ := by
  induction past with
  | nil => rfl
  | cons s past ih =>
    rw [List.reverse_cons, Run.along_append, ih]
    cases s with
    | schema l h =>
      cases hmade : past.any Step.isSchema with
      | true => simp [Run.along, Books.step, lastStanding, Step.isSchema, hmade]
      | false =>
        simp [Run.along, Books.step, lastStanding, Step.isSchema, hmade, Books.blank,
          lastStanding_of_no_schema hmade]
    | add l h f last =>
      have hworking : (fun first => lastStanding first false (.add l h f last :: past)) =
          if past.any Step.isSchema && h.suits l then
            Rule.replace.record (fun first => lastStanding first false past) f last
          else fun first => lastStanding first false past := by
        funext first
        by_cases hfirst : first = f
        · cases hsuits : h.suits l <;> cases hmade : past.any Step.isSchema <;>
            simp [lastStanding, hfirst, hsuits, hmade, Rule.record, Rule.last]
        · cases hsuits : h.suits l <;> cases hmade : past.any Step.isSchema <;>
            simp [lastStanding, hfirst, Ne.symm hfirst, hsuits, hmade, Rule.record]
      rw [hworking]
      simp only [Run.along, Books.step]
      split <;> simp [lastStanding, Step.isSchema]
    | get l h first =>
      simp only [Run.along, Books.step]
      split <;> simp [lastStanding, Step.isSchema]
    | commit => simp [Run.along, Books.step, lastStanding, Step.isSchema]
    | rollback => simp [Run.along, Books.step, lastStanding, Step.isSchema]

/-- That a database holds the table of a home with the ranges of a map, or no table yet. -/
def Keeps (home : Home) (isMade : Bool) (m : Int64 → Option Int64) (d : Database) : Prop :=
  if isMade then d.Records home m else d = .empty

/-- That a run of steps on a new connection keeps the books of a home: it answers like them, leaves
them in the database, and each range that is looked up after it ends where it was last recorded to
end, unless that was undone. -/
structure KeepsBooks (home : Home) (steps : List Step) : Prop where
  answers : (Run.along Step.perform (.ofDatabase .empty) steps).2.map Except.toOption =
    (Run.along (Books.step .replace) .unmade steps).2
  committed : Keeps home (steps.any Step.isSchema)
    (Run.along (Books.step .replace) .unmade steps).1.committed
    (Run.along Step.perform (.ofDatabase .empty) steps).1.committed
  working : Keeps home (steps.any Step.isSchema)
    (Run.along (Books.step .replace) .unmade steps).1.working
    (Run.along Step.perform (.ofDatabase .empty) steps).1.working
  lookup : steps.any Step.isSchema = true → ∀ (l : Ledger) (h : Handle) (first : Int64),
    (Step.get l h first).IsOn (some home) → h.suits l = true →
      (l.get? h (Run.along Step.perform (.ofDatabase .empty) steps).1 (.integer first.toInt)).2 =
        .ok ((lastStanding first false steps.reverse).map fun last => ⟨first.toInt, last.toInt⟩)

/-- Along every run on the table of a home a connection follows the books that are kept by the rule
for its name. -/
theorem Follows.run {home : Home} {steps : List Step} (h : ∀ s ∈ steps, s.IsOn (some home)) :
    Follows home (Run.along Step.perform (.ofDatabase .empty) steps).1
        (Run.along (Books.step (.ofName home.name)) .unmade steps).1 ∧
      (Run.along Step.perform (.ofDatabase .empty) steps).2.map Except.toOption =
        (Run.along (Books.step (.ofName home.name)) .unmade steps).2 := by
  have hstep (s : Step) (hs : s ∈ steps) (c : Connection) (b : Books) (hf : Follows home c b) :
      Follows home (s.perform c).1 (b.step (.ofName home.name) s).1 ∧
        (s.perform c).2.toOption = (b.step (.ofName home.name) s).2 := hf.step (h s hs)
  exact Run.along_refines hstep (.new home)

namespace KeepsBooks

variable {home : Home}

/-- Every run on a table that is not called `excluded` keeps the books. -/
theorem of_ne (hname : home.name ≠ "excluded") {steps : List Step}
    (h : ∀ s ∈ steps, s.IsOn (some home)) : KeepsBooks home steps := by
  have hrule : Rule.ofName home.name = .replace := if_neg hname
  obtain ⟨hfollows, hanswers⟩ := Follows.run h
  have hbooks := Books.eq_lastStanding steps.reverse
  rw [List.reverse_reverse] at hbooks
  rw [hrule] at hfollows hanswers
  rw [hbooks, List.any_reverse] at hfollows
  have hkeeps : Keeps home (steps.any Step.isSchema)
        (fun first => lastStanding first true steps.reverse)
        (Run.along Step.perform (.ofDatabase .empty) steps).1.committed ∧
      Keeps home (steps.any Step.isSchema)
        (fun first => lastStanding first false steps.reverse)
        (Run.along Step.perform (.ofDatabase .empty) steps).1.working := by
    unfold Keeps
    cases hmade : steps.any Step.isSchema with
    | false =>
      obtain ⟨-, hcommitted, hp, -⟩ := hfollows.unmade hmade
      exact ⟨hcommitted, by rw [Connection.working, hp]; exact hcommitted⟩
    | true => exact hfollows.made hmade
  refine ⟨hanswers, by rw [hbooks]; exact hkeeps.1, by rw [hbooks]; exact hkeeps.2, ?_⟩
  intro hmade l handle first hon hsuits
  obtain ⟨-, hanswer⟩ := hfollows.get hon.2 handle hon.1 .replace first
  simp only [Step.perform, Books.step, hmade, hsuits, Bool.and_true, if_true] at hanswer
  cases hget : (l.get? handle (Run.along Step.perform (.ofDatabase .empty) steps).1
      (.integer first.toInt)).2 with
  | error f => simp [hget, Except.toOption] at hanswer
  | ok range =>
    rw [hget] at hanswer
    exact congrArg Except.ok (Option.some.inj hanswer)

end KeepsBooks

/-- Steps that record a range twice and look it up. -/
def recordedTwice (l : Ledger) : List Step :=
  [.schema l .connection, .add l .connection 5 1, .add l .connection 5 2, .get l .connection 5]

theorem isOn_recordedTwice {l : Ledger} {home : Home} (hname : isTableName l.table.toList = true)
    (hhome : l.tableName.home? = some home) : ∀ s ∈ recordedTwice l, s.IsOn (some home) := by
  simp only [recordedTwice, Step.IsOn, List.forall_mem_cons]
  exact ⟨⟨hname, hhome⟩, ⟨hname, hhome⟩, ⟨hname, hhome⟩, ⟨hname, hhome⟩, by simp⟩

/-- In a table that is called `excluded` a range that is recorded twice keeps its old end. -/
theorem not_keepsBooks_recordedTwice {l : Ledger} {home : Home}
    (hname : isTableName l.table.toList = true) (hhome : l.tableName.home? = some home)
    (hstyle : l.style = .qmark) (hexcluded : home.name = "excluded") :
    ¬ KeepsBooks home (recordedTwice l) := by
  intro hkeeps
  have hsuits : Handle.connection.suits l = true := by simp [Handle.suits, Handle.reaching, hstyle]
  have hon := isOn_recordedTwice hname hhome
  have hrule : Rule.ofName home.name = .retain := if_pos hexcluded
  have hanswers := (Follows.run hon).2
  rw [hkeeps.answers, hrule] at hanswers
  simp [recordedTwice, Run.along, Books.step, Books.unmade, Books.blank, hsuits, Rule.record,
    Rule.last] at hanswers

/-- Every run on a table that the store can make keeps its books, except where the table is called
`excluded`. -/
theorem keepsBooks_iff {l : Ledger} (hname : isTableName l.table.toList = true)
    (hmakes : (l.createSchema .connection (.ofDatabase .empty)).2 = .ok ()) :
    ∃ home, l.tableName.home? = some home ∧
      ((∀ steps : List Step, (∀ s ∈ steps, s.IsOn (some home)) → KeepsBooks home steps) ↔
        Store.lowered l.tableName.table ≠ "excluded") := by
  obtain ⟨home, hhome⟩ := exists_home_of_createSchema hname hmakes
  have hlowered := (Store.TableName.home?_eq_some.mp hhome).2.2.2
  refine ⟨home, hhome, ?_⟩
  rw [hlowered]
  constructor
  · intro hkeeps hexcluded
    let l' : Ledger := { l with style := .qmark }
    have hon : ∀ s ∈ recordedTwice l', s.IsOn (some home) := isOn_recordedTwice hname hhome
    exact not_keepsBooks_recordedTwice (l := l') hname hhome rfl hexcluded (hkeeps _ hon)
  · intro hne steps hon
    exact KeepsBooks.of_ne hne hon

/-- Every run on the table that is used by default keeps its books. -/
theorem keepsBooks_default :
    isTableName Ledger.default.table.toList = true ∧
      (Ledger.default.createSchema .connection (.ofDatabase .empty)).2 = .ok () ∧
      ∀ steps : List Step, (∀ s ∈ steps, s.IsOn (some ⟨.main, "sequence"⟩)) →
        KeepsBooks ⟨.main, "sequence"⟩ steps := by
  have hname : isTableName Ledger.default.table.toList = true := by decide +kernel
  have hmakes : (Ledger.default.createSchema .connection (.ofDatabase .empty)).2 = .ok () := by
    have hok : (Ledger.default.createSchema .connection (.ofDatabase .empty)).2.isOk = true := by
      decide +kernel
    cases hcreate : (Ledger.default.createSchema .connection (.ofDatabase .empty)).2 with
    | error f => simp [hcreate, Except.isOk, Except.toBool] at hok
    | ok made => rfl
  have hdefault : Ledger.default.tableName.home? = some ⟨.main, "sequence"⟩ := by decide +kernel
  obtain ⟨home, hhome, hkeeps⟩ := keepsBooks_iff hname hmakes
  obtain rfl : ⟨.main, "sequence"⟩ = home := Option.some.inj (hdefault.symm.trans hhome)
  exact ⟨hname, hmakes, hkeeps.mpr (by decide +kernel)⟩

/-- In a table called `excluded` the second range is not read back, though the books have it. -/
theorem excluded_recordedTwice :
    (∀ s ∈ recordedTwice ⟨"excluded", .qmark⟩, s.IsOn (some ⟨.main, "excluded"⟩)) ∧
      (Run.along Step.perform (.ofDatabase .empty) (recordedTwice ⟨"excluded", .qmark⟩)).2.map
        Except.toOption = [some none, some none, some none, some (some ⟨5, 1⟩)] ∧
      (Run.along (Books.step .replace) .unmade (recordedTwice ⟨"excluded", .qmark⟩)).2 =
        [some none, some none, some none, some (some ⟨5, 2⟩)] := by
  have hname : isTableName "excluded".toList = true := by decide
  have hhome : (tableName ⟨"excluded", .qmark⟩).home? = some ⟨.main, "excluded"⟩ := by
    decide +kernel
  have hon : ∀ s ∈ recordedTwice ⟨"excluded", .qmark⟩, s.IsOn (some ⟨.main, "excluded"⟩) :=
    isOn_recordedTwice hname hhome
  exact ⟨hon, (Follows.run hon).2.trans (by decide +kernel), by decide +kernel⟩

end BatchFrontier.Ledger
