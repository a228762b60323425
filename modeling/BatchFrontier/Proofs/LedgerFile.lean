import BatchFrontier.Proofs.JsonReading
import BatchFrontier.Proofs.LedgerSoundness
import BatchFrontier.Proofs.RunOutcome

/-!
# The ledger in a file

A run that records a range either succeeds, and then the file holds the range as well as all others
that it held, or it fails, and then the file holds what it held. Between the two the table may have
been made and a transaction may have been opened; neither shows in what is committed. So after any
runs, one after the other, a file holds for each first batch the end that was recorded last.
-/

namespace BatchFrontier

/-! ## Files -/

namespace Files

theorem get?_cons (f : FileName × Content) (fs : Files) (name : FileName) :
    get? (f :: fs) name = if f.1 = name then some f.2 else fs.get? name := by
  unfold get?
  rw [List.find?_cons]
  by_cases hname : f.1 = name
  · rw [beq_iff_eq.mpr hname, if_pos hname]
    rfl
  · rw [beq_false_of_ne hname, if_neg hname]

/-- Replacing the content of a file, if it is there, touches no other file. -/
theorem get?_map (fs : Files) (name : FileName) (c : Content) (other : FileName) :
    get? (fs.map fun f => if f.1 == name then (name, c) else f) other =
      if other = name then (fs.get? name).map fun _ => c else fs.get? other := by
  induction fs with
  | nil => split <;> rfl
  | cons f fs ih =>
    rw [List.map_cons, get?_cons, get?_cons, get?_cons, ih]
    by_cases hname : f.1 = name
    · by_cases hother : other = name
      · simp [hname, hother]
      · simp [hname, hother, Ne.symm hother]
    · by_cases hother : other = name
      · simp [hname, hother]
      · simp [hname, hother]

/-- A file that was put has the content that was put, and the others have theirs. -/
theorem get?_put (fs : Files) (name : FileName) (c : Content) (other : FileName) :
    (fs.put name c).get? other = if other = name then some c else fs.get? other := by
  unfold put
  split
  · next hsome =>
    obtain ⟨old, hold⟩ := Option.isSome_iff_exists.mp hsome
    rw [get?_map, hold, Option.map_some]
  · next hnone =>
    have hnone : fs.get? name = none := by simpa using hnone
    have happend : get? (fs ++ [(name, c)]) other =
        (fs.get? other).or (get? [(name, c)] other) := by
      unfold get?
      rw [List.find?_append, Option.map_or]
    rw [happend, get?_cons]
    by_cases hother : other = name
    · rw [if_pos hother.symm, if_pos hother, hother, hnone, Option.none_or]
    · rw [if_neg (Ne.symm hother), if_neg hother]
      exact Option.or_none

/-- The database that the content of a file counts as: an empty one if there is no file or next to
nothing in it. -/
def database? (fs : Files) (name : FileName) : Option Store.Database :=
  match fs.get? name with
  | none | some (.bytes []) | some (.bytes [_]) => some .empty
  | some (.bytes _) => none
  | some (.database d) => some d

/-- That the path of a database leads to a file. -/
def Reaches (ds : Directories) (fs : Files) (path : Text) (name : FileName) : Prop :=
  (fs.openDatabase ds path).toOption.bind (fun r => r.2.file) = some name

instance (ds : Directories) (fs : Files) (path : Text) (name : FileName) :
    Decidable (fs.Reaches ds path name) :=
  inferInstanceAs (Decidable (_ = _))

theorem reaches_iff {ds : Directories} {fs : Files} {path : Text} {name : FileName} :
    fs.Reaches ds path name ↔ ∃ r, fs.openDatabase ds path = .ok r ∧ r.2.file = some name := by
  unfold Reaches
  cases fs.openDatabase ds path <;> simp [Except.toOption]

variable {ds : Directories} {fs : Files} {path : Text} {name : FileName} {r : Files × OpenDatabase}

/-- What is opened is a database that is forgotten, or one in a file. -/
theorem file_of_openDatabase (h : fs.openDatabase ds path = .ok r) :
    r.2.file = none ∧ r.1 = fs ∨ ∃ l name, fs.openFile l name = .ok r := by
  unfold openDatabase at h
  obtain ⟨name, -, h⟩ := bind_eq_ok_iff.mp h
  generalize Store.Location.ofName name = location at h
  cases location with
  | error u => cases h
  | ok l =>
    simp only at h
    split at h
    · obtain rfl := Except.ok.inj h
      exact .inl ⟨rfl, rfl⟩
    · unfold openPlace at h
      split at h
      · cases h
      · split at h
        · cases h
        · split at h
          · exact .inr ⟨l, _, h⟩
          · split at h
            · obtain rfl := Except.ok.inj h
              exact .inl ⟨rfl, rfl⟩
            · cases h
          · cases h

/-- A file is opened as the database that it counts as, or as something else, or it is made. -/
theorem openFile_cases {l : Store.Location} (h : fs.openFile l name = .ok r) :
    (∃ d, fs.database? name = some d ∧
      r = (fs, ⟨some name, .ok (.guarded d (barrier l name))⟩)) ∨
    (fs.database? name = none ∧ r = (fs, ⟨some name, .error (.storage .notDatabase)⟩)) ∨
    (fs.get? name = none ∧ r = (fs.put name (.database .empty),
      ⟨some name, .ok (.guarded .empty (barrier l name))⟩)) := by
  unfold openFile at h
  simp only at h
  split at h
  · next d hget =>
    exact .inl ⟨d, by rw [database?, hget], (Except.ok.inj h).symm⟩
  · next hget =>
    exact .inl ⟨.empty, by rw [database?, hget], (Except.ok.inj h).symm⟩
  · next hget =>
    exact .inl ⟨.empty, by rw [database?, hget], (Except.ok.inj h).symm⟩
  · next bs hempty hsingle hget =>
    refine .inr (.inl ⟨?_, (Except.ok.inj h).symm⟩)
    rw [database?, hget]
    cases bs with
    | nil => exact absurd rfl hempty
    | cons b bs =>
      cases bs with
      | nil => exact absurd rfl (hsingle b)
      | cons b' bs => rfl
  · next hget =>
    split at h
    · exact .inr (.inr ⟨hget, (Except.ok.inj h).symm⟩)
    · cases h

/-- A file that is opened keeps the database that it counts as, and no other file is touched. -/
theorem openFile_eq {l : Store.Location} (h : fs.openFile l name = .ok r) :
    r.2.file = some name ∧ r.1.database? name = fs.database? name ∧
      (∀ other ≠ name, r.1.get? other = fs.get? other) ∧
      ∀ d, fs.database? name = some d →
        r.2.connection = .ok (.guarded d (barrier l name)) := by
  rcases openFile_cases h with ⟨d, hd, rfl⟩ | ⟨hnone, rfl⟩ | ⟨hget, rfl⟩
  · refine ⟨rfl, rfl, fun other _ => rfl, fun d' hd' => ?_⟩
    rw [Option.some.inj (hd.symm.trans hd')]
  · refine ⟨rfl, rfl, fun other _ => rfl, fun d' hd' => ?_⟩
    cases hnone.symm.trans hd'
  · have hmade := get?_put fs name (.database .empty)
    have hempty : fs.database? name = some .empty := by rw [database?, hget]
    refine ⟨rfl, ?_, fun other hother => ?_, fun d' hd' => ?_⟩
    · rw [hempty, database?, hmade, if_pos rfl]
    · rw [hmade, if_neg hother]
    · rw [Option.some.inj (hempty.symm.trans hd')]

/-- The path of a database in a file opens a new connection to the database that the file counts
as. -/
theorem exists_guarded_of_reaches {d : Store.Database} (hd : fs.database? name = some d)
    (h : fs.Reaches ds path name) : ∃ r barrier, fs.openDatabase ds path = .ok r ∧
      r.2.file = some name ∧ r.2.connection = .ok (.guarded d barrier) ∧
      r.1.database? name = some d := by
  obtain ⟨r, hopen, hfile⟩ := reaches_iff.mp h
  rcases file_of_openDatabase hopen with ⟨hnone, -⟩ | ⟨l, name', hopened⟩
  · cases hnone.symm.trans hfile
  · obtain ⟨hfile', hdatabase, -, hconnection⟩ := openFile_eq hopened
    obtain rfl : name' = name := Option.some.inj (hfile'.symm.trans hfile)
    exact ⟨r, _, hopen, hfile, hconnection d hd, hdatabase.trans hd⟩

/-- A file that a path does not lead to is not touched when the path is opened. -/
theorem get?_openDatabase (hopen : fs.openDatabase ds path = .ok r)
    (h : ¬ fs.Reaches ds path name) :
    r.1.get? name = fs.get? name := by
  rcases file_of_openDatabase hopen with ⟨-, hsame⟩ | ⟨l, name', hopened⟩
  · rw [hsame]
  · obtain ⟨hfile, -, hother, -⟩ := openFile_eq hopened
    refine hother name ?_
    rintro rfl
    exact h (reaches_iff.mpr ⟨r, hopen, hfile⟩)

/-- Closing a database touches the file that it is in only. -/
theorem get?_closeDatabase {o : OpenDatabase} (h : o.file ≠ some name)
    (committed : Store.Database) : (fs.closeDatabase o committed).get? name = fs.get? name := by
  unfold closeDatabase
  split
  · next name' hfile =>
    split
    · rfl
    · rw [get?_put, if_neg]
      rintro rfl
      exact h hfile
  · rfl

end Files

/-! ## Recording -/

namespace Store.Cell

open CommandLine (Take)

/-- An argument that should be an integer and has a cell is an integer of 64 bits. -/
theorem integer_of_gives {position : Nat} {v : Value} {cell : Cell} (hv : Take.integer.Gives v)
    (hcell : ofValue position v = .ok cell) :
    ∃ n : Int64, v = .integer n.toInt ∧ cell = .integer n.toInt := by
  rcases hv with ⟨n, rfl, -⟩ | rfl
  · rw [ofValue] at hcell
    split at hcell
    · next hfits =>
      simp only [fits, Bool.and_eq_true, decide_eq_true_eq] at hfits
      have hn := Int64.toInt_ofInt_of_le hfits.1 hfits.2
      refine ⟨.ofInt n, by rw [hn], ?_⟩
      rw [hn]
      exact (Except.ok.inj hcell).symm
    · cases hcell
  · cases hcell

end Store.Cell

/-- An empty database holds no table of ranges. -/
theorem Store.Database.not_records_empty (home : Home) (m : Int64 → Option Int64) :
    ¬ Records home m empty := by
  rintro ⟨title, es, -, -, -, hempty⟩
  have htables := congrArg (fun d => d.tables home.schema) hempty
  have hnone : empty.tables home.schema = [] := by cases home.schema <;> rfl
  rw [tables_only, hnone] at htables
  cases htables

namespace Ledger

open CommandLine (Take)
open Store (Cell Command Connection Database Home Rule)

/-- That a database holds the ranges of a map, or that it is empty and the map is as well. -/
def HoldsRanges (home : Home) (m : Int64 → Option Int64) (d : Database) : Prop :=
  d.Records home m ∨ d = .empty ∧ m = fun _ => none

section

variable {l : Ledger} (hname : isTableName l.table.toList = true) {home : Home}
  (hhome : l.tableName.home? = some home) {m : Int64 → Option Int64} {c : Connection}
  (handle : Handle)

include hname hhome

/-- Making the table keeps the ranges that are committed. Once it is made they are all that is
worked on, and the connection is as free to write as it was. -/
theorem holdsRanges_createSchema (hpending : c.pending = none)
    (hm : HoldsRanges home m c.committed) :
    HoldsRanges home m (l.createSchema handle c).1.committed ∧
      ((l.createSchema handle c).2 = .ok () →
        (l.createSchema handle c).1.working.Records home m ∧
          (l.createSchema handle c).1.barrier = c.barrier) := by
  have hworking : c.working = c.committed := by
    rw [Connection.working, hpending, Option.getD_none]
  have hfree := (Store.TableName.home?_eq_some.mp hhome).1
  have hread := Handle.ofText_prepared Frame.create_lawful hname handle hfree rfl
  rw [Frame.text_create] at hread
  rw [createSchema_eq, Handle.execute]
  cases hrows : (c.execute (handle.prepared l.schemaStatement.text)
      l.schemaStatement.parameters).2 with
  | error f =>
    obtain ⟨htables, -⟩ := Connection.execute_of_error c _ hrows
    rw [htables.committed]
    exact ⟨hm, fun h => by cases h⟩
  | ok rows =>
    obtain ⟨command, cells, known, d, htext, hcells, hrun, hrests, -⟩ :=
      Connection.execute_of_ok c _ hrows
    obtain rfl : cells = [] := (Except.ok.inj hcells).symm
    obtain rfl : command = ⟨.create, l.tableName⟩ := Except.ok.inj (htext.symm.trans hread)
    have hd : d.Records home m := by
      rw [hworking] at hrun
      rcases hm with hrecords | ⟨hempty, rfl⟩
      · rw [Database.run_create_of_records hhome hrecords] at hrun
        obtain rfl := (Prod.mk.inj (Except.ok.inj hrun)).1
        exact hrecords
      · rw [hempty, Database.run_create_empty hhome] at hrun
        obtain rfl := (Prod.mk.inj (Except.ok.inj hrun)).1
        exact Database.records_made hhome
    obtain ⟨hkept, hdone, hkeptBarrier, -⟩ := Connection.keep_eq (c.opened .create) d
    obtain ⟨hopened, hopenedBarrier, -⟩ := Connection.opened_eq c .create
    rw [hrests.committed, hrests.working, hkept]
    refine ⟨?_, fun _ => ⟨hd, hrests.barrier.trans (hkeptBarrier.trans hopenedBarrier)⟩⟩
    rcases hdone with hbefore | hafter
    · rw [hbefore, hopened.committed]
      exact hm
    · rw [hafter]
      exact .inl hd

omit hhome in
/-- Adding a range commits nothing, whether it is done or refused. -/
theorem committed_add (first last : Value) :
    (l.add handle c first last).1.committed = c.committed := by
  cases hadd : (l.add handle c first last).2 with
  | ok u =>
    obtain ⟨_, _, _, _, -, -, hrecorded, -⟩ := recorded_of_add hname hadd
    exact hrecorded.committed
  | error f =>
    rw [add_eq, Handle.execute] at hadd ⊢
    exact (Connection.execute_of_error c _ (map_eq_error_iff.mp hadd)).1.committed

/-- A range of 64 bits is added where the table was made, through a handle that suits the ledger,
and can be committed. -/
theorem add_of_follows {b : Books} (hb : Follows home c b) (hsuits : handle.suits l = true)
    (first last : Int64) :
    (l.createSchema handle c).2 = .ok () ∧
      (l.add handle (l.createSchema handle c).1 (.integer first.toInt) (.integer last.toInt)).2 =
        .ok () ∧
      (l.add handle (l.createSchema handle c).1 (.integer first.toInt)
        (.integer last.toInt)).1.commit.2 = .ok () := by
  obtain ⟨hmade, hcreated⟩ := hb.createSchema hhome handle hname
  obtain ⟨hadded, hanswer⟩ := hmade.add hhome handle hname first last
  have hisMade : (if b.isMade then b else .blank).isMade = true := by
    cases hb : b.isMade with
    | true => rw [if_pos rfl, hb]
    | false => rfl
  refine ⟨hcreated, ?_, hadded.commit.2⟩
  rw [Books.step, hisMade, hsuits, Bool.and_self, if_pos rfl, Step.perform] at hanswer
  cases hadd : (l.add handle (l.createSchema handle c).1 (.integer first.toInt)
      (.integer last.toInt)).2 with
  | ok u => rfl
  | error f =>
    rw [hadd] at hanswer
    cases hanswer

/-- A range that was added has ends of 64 bits and is worked on with all others, on a connection
that nothing keeps from writing. -/
theorem records_add {first last : Value} (hfirst : Take.integer.Gives first)
    (hlast : Take.integer.Gives last) (hm : c.working.Records home m)
    (hadd : (l.add handle c first last).2 = .ok ()) :
    ∃ f t : Int64, first = .integer f.toInt ∧ last = .integer t.toInt ∧ c.barrier = none ∧
      (l.add handle c first last).1.isDamaged = false ∧
      (l.add handle c first last).1.working.Records home
        ((Rule.ofName home.name).record m f t) := by
  rw [add_eq, Handle.execute] at hadd ⊢
  obtain ⟨rows, hrows, -⟩ := map_eq_ok_iff.mp hadd
  obtain ⟨command, cells, known, d, htext, hcells, hrun, hrests, -, hopen⟩ :=
    Connection.execute_of_ok c _ hrows
  rw [← Frame.text_upsert] at htext
  obtain ⟨rfl, -⟩ := Handle.command_of_prepared Frame.upsert_lawful hname handle htext
    Frame.upsert_takesParameter
  obtain ⟨hsound, hbarrier⟩ := hopen rfl
  obtain ⟨key, cell, -, -, rfl, -, -, -⟩ := Database.exists_withRow_of_run hrun
  obtain ⟨hkey, hcell⟩ := Cell.ofValue_of_ofValues hcells
  obtain ⟨f, rfl, rfl⟩ := Cell.integer_of_gives hfirst hkey
  obtain ⟨t, rfl, rfl⟩ := Cell.integer_of_gives hlast hcell
  obtain ⟨d', hd', hrecorded⟩ := Database.run_upsert_of_records hhome hm f t
  obtain rfl : d' = d := (Prod.mk.inj (Except.ok.inj ((hrecorded known).symm.trans hrun))).1
  obtain ⟨hkept, -, -, hkeptDamage⟩ := Connection.keep_eq (c.opened .upsert) d'
  obtain ⟨-, -, hopenedDamage⟩ := Connection.opened_eq c .upsert
  have hdamage := hrests.isDamaged.trans (hkeptDamage.trans hopenedDamage)
  have hworking := hrests.working.trans hkept
  refine ⟨f, t, rfl, rfl, hbarrier, hdamage.trans hsound, ?_⟩
  simpa only [hworking] using hd'

end

end Ledger

namespace CommandLine

open Store (Connection Home)

/-- Where the store keeps the table of the ledger. -/
def ledgerHome : Home := ⟨.main, "sequence"⟩

theorem home?_default : Ledger.default.tableName.home? = some ledgerHome := by decide +kernel

/-- In the table of the ledger a range that is recorded replaces the one with its first batch. -/
theorem ofName_ledgerHome : Store.Rule.ofName ledgerHome.name = .replace := by decide

/-- Recording a range on a connection that works on what is committed either enters the range among
those that are committed, or leaves these as they were. -/
theorem recordIn_committed {c : Connection} {m : Int64 → Option Int64} (hpending : c.pending = none)
    (hm : Ledger.HoldsRanges ledgerHome m c.committed) {first last : Value}
    (hfirst : Take.integer.Gives first) (hlast : Take.integer.Gives last) :
    ((recordIn c first last).2 = .ok () →
      ∃ f t : Int64, first = .integer f.toInt ∧ last = .integer t.toInt ∧ c.barrier = none ∧
        (recordIn c first last).1.committed.Records ledgerHome (Function.update m f (some t))) ∧
    (∀ f, (recordIn c first last).2 = .error f →
      Ledger.HoldsRanges ledgerHome m (recordIn c first last).1.committed) := by
  obtain ⟨hmade, hworking⟩ :=
    Ledger.holdsRanges_createSchema isTableName_default home?_default .connection hpending hm
  have hadd (e : Connection) := Ledger.records_add isTableName_default home?_default (c := e)
    (m := m) .connection hfirst hlast
  have hkept (e : Connection) :=
    Ledger.committed_add isTableName_default (c := e) .connection first last
  simp only [ofName_ledgerHome] at hadd
  have hrecord := recordIn_eq c first last
  -- What is done to the database is left abstract, or else it would be carried out here.
  obtain ⟨created, hcreate⟩ : ∃ e, Ledger.default.createSchema .connection c = e := ⟨_, rfl⟩
  obtain ⟨add, haddition⟩ : ∃ add, Ledger.default.add .connection = add := ⟨_, rfl⟩
  rw [hcreate] at hmade hworking hrecord
  rw [haddition] at hadd hkept hrecord
  rw [hrecord]
  have hdropped (e : Connection) : e.rollback.committed = e.committed := e.rollback_eq.1
  cases hcreated : created.2 with
  | error f =>
    refine ⟨fun h => (by cases h), fun f' h => ?_⟩
    simpa only [hdropped] using hmade
  | ok u =>
    obtain ⟨hranges, hbarrier⟩ := hworking hcreated
    cases hadded : (add created.1 first last).2 with
    | error f =>
      refine ⟨fun h => (by cases h), fun f' h => ?_⟩
      simpa only [hdropped, hkept] using hmade
    | ok u =>
      obtain ⟨f, t, hf, ht, hopen, hsound, hrecorded⟩ := hadd created.1 hranges hadded
      have hcommit := Connection.commit_of_not_damaged _ hsound
      obtain ⟨hcommitted, -⟩ := Connection.commit_of_ok _ hcommit
      refine ⟨fun h => ⟨f, t, hf, ht, hbarrier.symm.trans hopen, ?_⟩, fun f' h => ?_⟩
      · simp only [hcommitted]
        exact hrecorded
      · cases hcommit.symm.trans h

/-- A range of integers of 64 bits is recorded on a new connection that is free to write. -/
theorem recordIn_of_free {d : Store.Database} {m : Int64 → Option Int64}
    (hm : Ledger.HoldsRanges ledgerHome m d) (first last : Int64) :
    (recordIn (.guarded d none) (.integer first.toInt) (.integer last.toInt)).2 = .ok () := by
  have hfollows : ∃ b : Ledger.Books, Ledger.Follows ledgerHome (.guarded d none) b := by
    rcases hm with hrecords | ⟨rfl, -⟩
    · exact ⟨⟨true, m, m⟩, .of_records rfl rfl (fun _ => rfl) hrecords hrecords⟩
    · exact ⟨.unmade, .new ledgerHome⟩
  obtain ⟨b, hb⟩ := hfollows
  obtain ⟨hcreated, hadded, hcommitted⟩ := Ledger.add_of_follows isTableName_default home?_default
    .connection hb rfl first last
  rw [recordIn_result, hcreated, hadded, hcommitted]
  rfl

/-! ## Recording in a file -/

/-- That a file holds the ranges of a map. -/
def HoldsLedger (fs : Files) (name : FileName) (m : Int64 → Option Int64) : Prop :=
  ∃ d, fs.database? name = some d ∧ Ledger.HoldsRanges ledgerHome m d

theorem HoldsLedger.congr {fs fs' : Files} {name : FileName} {m : Int64 → Option Int64}
    (h : HoldsLedger fs name m) (hget : fs'.get? name = fs.get? name) : HoldsLedger fs' name m := by
  obtain ⟨d, hd, hm⟩ := h
  exact ⟨d, by rw [Files.database?, hget]; exact hd, hm⟩

/-- A file holds the ranges of one map only. -/
theorem HoldsLedger.unique {fs : Files} {name : FileName} {m m' : Int64 → Option Int64}
    (h : HoldsLedger fs name m) (h' : HoldsLedger fs name m') : m = m' := by
  obtain ⟨d, hd, hm⟩ := h
  obtain ⟨d', hd', hm'⟩ := h'
  obtain rfl : d = d' := Option.some.inj (hd.symm.trans hd')
  rcases hm with hrecords | ⟨rfl, rfl⟩
  · rcases hm' with hrecords' | ⟨rfl, -⟩
    · exact hrecords.unique hrecords'
    · exact absurd hrecords (Store.Database.not_records_empty _ _)
  · rcases hm' with hrecords' | ⟨-, rfl⟩
    · exact absurd hrecords' (Store.Database.not_records_empty _ _)
    · rfl

/-- The table of the ledger is not temporary. -/
theorem withoutTemp_of_records {d : Store.Database} {m : Int64 → Option Int64}
    (h : d.Records ledgerHome m) : { d with temp := [] } = d := by
  obtain ⟨title, es, -, -, -, rfl⟩ := h
  rfl

/-- A file in which a database is closed holds the ranges that were committed. -/
theorem holdsLedger_closeDatabase {fs : Files} {o : Files.OpenDatabase} {name : FileName}
    (hfile : o.file = some name) {m : Int64 → Option Int64} {committed : Store.Database}
    (hm : Ledger.HoldsRanges ledgerHome m committed)
    (hbefore : committed = .empty → HoldsLedger fs name m) :
    HoldsLedger (fs.closeDatabase o committed) name m := by
  unfold Files.closeDatabase
  rw [hfile]
  simp only
  split
  · next hempty => exact hbefore hempty
  · next hfull =>
    rcases hm with hrecords | ⟨hempty, -⟩
    · refine ⟨committed, ?_, .inl hrecords⟩
      rw [Files.database?, Files.get?_put, if_pos rfl, withoutTemp_of_records hrecords]
    · exact absurd hempty hfull

/-- What becomes of the files when a range is recorded. -/
theorem recordSequence_files (ds : Directories) (fs : Files) (path : Text)
    (first last : Value) : (recordSequence ds fs path first last).files =
      match fs.openDatabase ds path with
      | .error _ => fs
      | .ok r =>
        match r.2.connection with
        | .error _ => r.1
        | .ok c => r.1.closeDatabase r.2 (recordIn c first last).1.committed := by
  obtain ⟨record, hrecord⟩ : ∃ record, recordIn = record := ⟨_, rfl⟩
  unfold recordSequence
  rw [hrecord]
  cases hopen : fs.openDatabase ds path with
  | error f => rfl
  | ok r =>
    obtain ⟨fs', opened⟩ := r
    cases hconnection : opened.connection with
    | error f => simp only [hconnection]
    | ok c =>
      simp only [hconnection]
      cases record c first last with
      | mk e r => cases r <;> rfl

section

variable {ds : Directories} {fs : Files} {path : Text} {name : FileName}
  {m : Int64 → Option Int64}

/-- Recording a range touches no file but the one that its path leads to. -/
theorem get?_recordSequence (h : ¬ fs.Reaches ds path name) (first last : Value) :
    (recordSequence ds fs path first last).files.get? name = fs.get? name := by
  rw [recordSequence_files]
  cases hopen : fs.openDatabase ds path with
  | error f => rfl
  | ok r =>
    have hopened := Files.get?_openDatabase hopen h
    simp only
    split
    · exact hopened
    · rw [Files.get?_closeDatabase, hopened]
      intro hfile
      exact h (Files.reaches_iff.mpr ⟨r, hopen, hfile⟩)

/-- A range is recorded in the database that the file counts as. -/
theorem recordSequence_of_reaches {d : Store.Database} (hd : fs.database? name = some d)
    (hreach : fs.Reaches ds path name) (first last : Value) :
    ∃ (r : Files × Files.OpenDatabase) (barrier : Option Store.Fault), r.2.file = some name ∧
      r.1.database? name = some d ∧ fs.connect ds path = .ok (.guarded d barrier) ∧
      (recordSequence ds fs path first last).files =
        r.1.closeDatabase r.2 (recordIn (.guarded d barrier) first last).1.committed ∧
      (recordSequence ds fs path first last).document.result =
        (recordIn (.guarded d barrier) first last).2.bind fun _ =>
          (sequenceDocument first last).result := by
  obtain ⟨r, barrier, hopen, hfile, hconnection, hopened⟩ :=
    Files.exists_guarded_of_reaches hd hreach
  have hconnect : fs.connect ds path = .ok (.guarded d barrier) := by
    rw [Files.connect, hopen]
    exact hconnection
  refine ⟨r, barrier, hfile, hopened, hconnect, ?_, ?_⟩
  · rw [recordSequence_files, hopen]
    simp only [hconnection]
  · obtain ⟨record, hrecord⟩ : ∃ record, recordIn = record := ⟨_, rfl⟩
    rw [recordSequence_result, hconnect, hrecord]
    rfl

/-- Recording a range in a file succeeds and enters the range among those that the file holds, or it
fails and leaves these as they were. -/
theorem holdsLedger_recordSequence (hm : HoldsLedger fs name m)
    (hreach : fs.Reaches ds path name)
    {first last : Value} (hfirst : Take.integer.Gives first) (hlast : Take.integer.Gives last) :
    (∀ document, (recordSequence ds fs path first last).document.result = .ok document →
      ∃ f t : Int64, first = .integer f.toInt ∧ last = .integer t.toInt ∧
        (∃ c, fs.connect ds path = .ok c ∧ c.barrier = none) ∧
        HoldsLedger (recordSequence ds fs path first last).files name
          (Function.update m f (some t))) ∧
    (∀ f, (recordSequence ds fs path first last).document.result = .error f →
      HoldsLedger (recordSequence ds fs path first last).files name m) := by
  obtain ⟨d, hd, hranges⟩ := hm
  obtain ⟨r, barrier, hfile, hopened, hconnect, hfiles, hresult⟩ :=
    recordSequence_of_reaches hd hreach first last
  obtain ⟨hdone, hrefused⟩ := recordIn_committed (c := .guarded d barrier) rfl hranges hfirst hlast
  obtain ⟨record, hrecord⟩ : ∃ record, recordIn (.guarded d barrier) first last = record :=
    ⟨_, rfl⟩
  rw [hrecord] at hdone hrefused hfiles hresult
  rw [hfiles, hresult]
  have hbefore : HoldsLedger r.1 name m := ⟨d, hopened, hranges⟩
  cases hended : record.2 with
  | error f =>
    refine ⟨fun document h => (by cases h), fun f' _ => ?_⟩
    exact holdsLedger_closeDatabase hfile (hrefused f hended) fun _ => hbefore
  | ok u =>
    obtain ⟨f, t, hf, ht, hbarrier, hrecorded⟩ := hdone hended
    refine ⟨fun document _ => ⟨f, t, hf, ht, ⟨_, hconnect, hbarrier⟩, ?_⟩, fun f' h => (by cases h)⟩
    refine holdsLedger_closeDatabase hfile (.inl hrecorded) fun hempty => ?_
    rw [hempty] at hrecorded
    exact absurd hrecorded (Store.Database.not_records_empty _ _)

/-- The document about a range. -/
def rangeDocument (first last : Int64) : Value :=
  .record [("fromBatchNumber", .integer first.toInt), ("toBatchNumber", .integer last.toInt)]

/-- A range of 64 bits is recorded in a file that holds ranges and can be written. -/
theorem recordSequence_of_free (hm : HoldsLedger fs name m) (hreach : fs.Reaches ds path name)
    (hfree : ∃ c, fs.connect ds path = .ok c ∧ c.barrier = none) (first last : Int64) :
    (recordSequence ds fs path (.integer first.toInt) (.integer last.toInt)).document.result =
      .ok (rangeDocument first last) := by
  obtain ⟨d, hd, hranges⟩ := hm
  obtain ⟨r, barrier, -, -, hconnect, -, hresult⟩ :=
    recordSequence_of_reaches hd hreach (.integer first.toInt) (.integer last.toInt)
  obtain ⟨c, hc, hbarrier⟩ := hfree
  obtain rfl : .guarded d barrier = c := Except.ok.inj (hconnect.symm.trans hc)
  obtain rfl : barrier = none := hbarrier
  have hrecorded := recordIn_of_free hranges first last
  obtain ⟨record, hrecord⟩ : ∃ record, recordIn = record := ⟨_, rfl⟩
  rw [hrecord] at hrecorded hresult
  rw [hresult, hrecorded]
  rfl

end

/-- The fields of the document about a range, in order. -/
def rangeFields (first last : Int64) : List (Text × Value) :=
  [("fromBatchNumber", .integer first.toInt), ("toBatchNumber", .integer last.toInt)]

/-- The fields of the document about a range are in order as they are found. -/
theorem arranges_rangeFields (first last : Int64) :
    Json.Arranges (rangeFields first last) (rangeFields first last) where
  perm := List.Perm.refl _
  order := @Json.inOrder_of_names _ ["fromBatchNumber", "toBatchNumber"] rfl (by decide)
  plain := by
    have hfirst := Json.isPlainText_ofString (s := "fromBatchNumber") (by decide)
    have hlast := Json.isPlainText_ofString (s := "toBatchNumber") (by decide)
    exact List.forall_mem_cons.mpr ⟨⟨hfirst, .integer first.toInt⟩,
      List.forall_mem_singleton.mpr ⟨hlast, .integer last.toInt⟩⟩
  ne_nil := List.cons_ne_nil _ _

/-! ## Runs -/

/-- A range of 64 bits is printed in every layout, and read again. -/
theorem print_rangeDocument (l : Json.Layout) (first last : Int64) : ∃ text,
    Json.print l (rangeDocument first last) = .ok text ∧
      Json.read (text ++ "\n").toList = .ok (rangeDocument first last) := by
  have hshort (n : Int64) : (Value.integer n.toInt).isWritable = true := by
    have hlow := n.le_toInt
    have hhigh := n.toInt_lt
    have hdigits : n.toInt.natAbs < 10 ^ 19 := by omega
    exact Value.isWritable_of_natAbs_lt hdigits (by decide)
  have hprint : Json.print l (rangeDocument first last) =
      .ok (Json.write l (rangeDocument first last)) := by
    have hwritable : (rangeDocument first last).isWritable = true := by
      rw [rangeDocument, Value.isWritable, Value.haveWritable, Value.haveWritable,
        Value.haveWritable, hshort first, hshort last]
      rfl
    rw [Json.print, if_pos hwritable]
  exact ⟨_, hprint, ((arranges_rangeFields first last).isObject hprint).read⟩

/-- That a run is asked to record a range in the ledger at a path. -/
def AsksToRecord (w : Surroundings) (arguments : List Text) (path : Text) (first last : Value) :
    Prop :=
  ∃ i db, Asks w.environment arguments i ∧ i.command = .recordSequence first last db ∧
    ledgerPath i.settings db = path

/-- A run that is asked to record a range ends as the recording does. -/
theorem run_of_asksToRecord {w : Surroundings} {arguments : List Text} {path : Text}
    {first last : Value} (h : AsksToRecord w arguments path first last) :
    (run w arguments).files = (recordSequence w.directories w.files path first last).files ∧
      (∀ f, (recordSequence w.directories w.files path first last).document.result = .error f →
        (run w arguments).ending ≠ .success ∧ (run w arguments).output = "") ∧
      ∀ f t, (recordSequence w.directories w.files path first last).document.result =
          .ok (rangeDocument f t) →
        (run w arguments).ending = .success ∧
          Json.read (run w arguments).output.toList = .ok (rangeDocument f t) := by
  obtain ⟨i, db, hasks, hcommand, rfl⟩ := h
  have hwork : i.work w =
      recordSequence w.directories w.files (ledgerPath i.settings db) first last := by
    rw [Invocation.work, hcommand]
  have hprinted : i.printed w =
      (recordSequence w.directories w.files (ledgerPath i.settings db) first last).document.result >>=
        Json.print i.layout := by
    rw [Invocation.printed, hwork]
  rw [run_of_asks hasks, i.outcome_files, hwork]
  refine ⟨rfl, fun f hf => ?_, fun f t hresult => ?_⟩
  · rw [hf] at hprinted
    exact Invocation.outcome_of_refused hprinted
  · obtain ⟨text, htext, hread⟩ := print_rangeDocument i.layout f t
    simp only [hresult, bind, Except.bind, htext] at hprinted
    rw [Invocation.outcome_of_ok hprinted]
    exact ⟨rfl, hread⟩

/-- A run that is asked to record a range in a file succeeds and enters the range among those that
the file holds, or it fails and leaves these as they were. -/
theorem run_recorded {w : Surroundings} {arguments : List Text} {name : FileName}
    {m : Int64 → Option Int64} (hm : HoldsLedger w.files name m) {path : Text} {first last : Value}
    (hasks : AsksToRecord w arguments path first last)
    (hreach : w.files.Reaches w.directories path name) :
    ((run w arguments).ending = .success ∧ ∃ f t : Int64,
      first = .integer f.toInt ∧ last = .integer t.toInt ∧
      (∃ c, w.files.connect w.directories path = .ok c ∧ c.barrier = none) ∧
      HoldsLedger (run w arguments).files name (Function.update m f (some t)) ∧
      Json.read (run w arguments).output.toList = .ok (rangeDocument f t)) ∨
    ((run w arguments).ending ≠ .success ∧ HoldsLedger (run w arguments).files name m) := by
  obtain ⟨i, db, hi, hcommand, -⟩ := id hasks
  have hfits := hi.fits.2
  rw [hcommand] at hfits
  obtain ⟨hfirst, hlast, -⟩ := hfits
  obtain ⟨hfiles, hfailed, hdone⟩ := run_of_asksToRecord hasks
  obtain ⟨hrecorded, hrefused⟩ := holdsLedger_recordSequence hm hreach hfirst hlast
  rw [hfiles]
  cases hresult : (recordSequence w.directories w.files path first last).document.result with
  | error f => exact .inr ⟨(hfailed f hresult).1, hrefused f hresult⟩
  | ok document =>
    obtain ⟨f, t, rfl, rfl, hfree, hentered⟩ := hrecorded document hresult
    have hdocument := (recordSequence_of_free hm hreach hfree f t)
    obtain ⟨hsuccess, hread⟩ := hdone f t hdocument
    exact .inl ⟨hsuccess, f, t, rfl, rfl, hfree, hentered, hread⟩

/-- What a run does to a file that holds the ranges of a map, and what it prints. -/
structure IsAtomic (name : FileName) (m : Int64 → Option Int64) (w : Surroundings)
    (arguments : List Text) : Prop where
  /-- A run that is asked to record a range in the file succeeds and enters the range, or it fails
  and leaves all ranges as they were. -/
  recorded {path : Text} {first last : Int}
    (hasks : AsksToRecord w arguments path (.integer first) (.integer last))
    (hreach : w.files.Reaches w.directories path name) :
    ((run w arguments).ending = .success ∧ ∃ f t : Int64, first = f.toInt ∧ last = t.toInt ∧
      HoldsLedger (run w arguments).files name (Function.update m f (some t)) ∧
      Json.read (run w arguments).output.toList = .ok (rangeDocument f t)) ∨
    ((run w arguments).ending ≠ .success ∧ (run w arguments).output = "" ∧
      HoldsLedger (run w arguments).files name m)
  /-- It succeeds if the file can be written and both ends of the range have 64 bits. -/
  succeeds_iff {path : Text} {first last : Int}
    (hasks : AsksToRecord w arguments path (.integer first) (.integer last))
    (hreach : w.files.Reaches w.directories path name) : (run w arguments).ending = .success ↔
      (∃ c, w.files.connect w.directories path = .ok c ∧ c.barrier = none) ∧
        ∃ f t : Int64, first = f.toInt ∧ last = t.toInt
  /-- A run that ends with any error leaves all ranges as they were and has no output. -/
  failed (hending : (run w arguments).ending ≠ .success) :
    (run w arguments).output = "" ∧ HoldsLedger (run w arguments).files name m

/-- The range that a command is to record in a file, if it is to record one there. -/
def Invocation.entered? (i : Invocation) (ds : Directories) (fs : Files) (name : FileName) :
    Option (Int64 × Int64) :=
  match i.command with
  | .recordSequence (.integer first) (.integer last) db =>
    if fs.Reaches ds (ledgerPath i.settings db) name then some (.ofInt first, .ofInt last)
    else none
  | _ => none

/-- The range that a run records in a file, if it succeeds in recording one there. -/
def entered? (name : FileName) (w : Surroundings) (arguments : List Text) :
    Option (Int64 × Int64) :=
  match startSettings w.environment, (run w arguments).ending with
  | .ok (d, s), .success =>
    (Invocation.ofArguments d s arguments).toOption.bind fun i =>
      i.entered? w.directories w.files name
  | _, _ => none

/-- Surroundings with other files, in a directory that becomes the working directory. The other
directories stay those that were there. -/
def Surroundings.within (w : Surroundings) (working : Trail) (fs : Files) : Surroundings :=
  { w with files := fs, directories := { w.directories with working := working } }

/-- A run on the files that the runs before it left. All runs share the working directory, from
which files have their names. -/
def proceed (working : Trail) (fs : Files) (r : Surroundings × List Text) : Files × Outcome :=
  ((run (r.1.within working fs) r.2).files, run (r.1.within working fs) r.2)

/-- The ranges that some runs, one after the other, record in a file. -/
def enteredAlong (working : Trail) (name : FileName) (fs : Files) :
    List (Surroundings × List Text) → List (Int64 × Int64)
  | [] => []
  | r :: runs => (entered? name (r.1.within working fs) r.2).toList ++
      enteredAlong working name (proceed working fs r).1 runs

/-- A map after some ranges were entered: the last one for a first batch counts. -/
def latest (entries : List (Int64 × Int64)) (m : Int64 → Option Int64) : Int64 → Option Int64 :=
  fun first => (entries.reverse.lookup first).or (m first)

/-- Ranges that are entered later count before those that were entered earlier. -/
theorem latest_append (entries more : List (Int64 × Int64)) (m : Int64 → Option Int64) :
    latest (entries ++ more) m = latest more (latest entries m) := by
  funext first
  unfold latest
  rw [List.reverse_append, List.lookup_append, Option.or_assoc]

/-- One range that is entered counts before all that were there. -/
theorem latest_singleton (first last : Int64) (m : Int64 → Option Int64) :
    latest [(first, last)] m = Function.update m first (some last) := by
  funext key
  rw [latest, List.reverse_singleton, List.lookup_cons, Function.update_apply]
  by_cases hkey : key = first
  · rw [if_pos hkey, hkey, beq_self_eq_true]
    rfl
  · rw [if_neg hkey, beq_false_of_ne hkey]
    rfl

section

variable {w : Surroundings} {arguments : List Text} {name : FileName}

theorem entered?_of_not_success (h : (run w arguments).ending ≠ .success) :
    entered? name w arguments = none := by
  unfold entered?
  split
  · next hending => exact absurd hending h
  · rfl

theorem entered?_of_success {i : Invocation} (hi : Asks w.environment arguments i)
    (h : (run w arguments).ending = .success) :
    entered? name w arguments = i.entered? w.directories w.files name := by
  obtain ⟨d, s, hsettings, hinvocation⟩ := hi
  unfold entered?
  rw [hsettings, h]
  simp only [hinvocation, Except.toOption, Option.bind_some]

/-- A command that does not record a range in a file has no range to enter there, and leaves the
file as it was. -/
theorem entered?_eq_none {i : Invocation} (hi : Asks w.environment arguments i)
    (h : ∀ path first last, AsksToRecord w arguments path first last →
      ¬ w.files.Reaches w.directories path name) :
    i.entered? w.directories w.files name = none ∧
      (run w arguments).files.get? name = w.files.get? name := by
  rw [run_of_asks hi, i.outcome_files]
  unfold Invocation.entered? Invocation.work
  cases hcommand : i.command with
  | state batch => exact ⟨rfl, rfl⟩
  | buildVerify inputs last new beneficiary => exact ⟨rfl, rfl⟩
  | recordSequence first last db =>
    have hreach := h _ first last ⟨i, db, hi, hcommand, rfl⟩
    refine ⟨?_, get?_recordSequence hreach first last⟩
    split
    · next hrange =>
      cases hrange
      exact if_neg hreach
    · rfl

variable {m : Int64 → Option Int64} (hm : HoldsLedger w.files name m)

include hm

/-- After a run a file holds the ranges that it held, with the one that the run recorded there. -/
theorem holdsLedger_run (arguments : List Text) : HoldsLedger (run w arguments).files name
    (latest (entered? name w arguments).toList m) := by
  by_cases hasks : ∃ i, Asks w.environment arguments i
  · obtain ⟨i, hi⟩ := hasks
    by_cases hrecords : ∃ path first last, AsksToRecord w arguments path first last ∧
        w.files.Reaches w.directories path name
    · obtain ⟨path, first, last, hasks, hreach⟩ := hrecords
      rcases run_recorded hm hasks hreach with
        ⟨hsuccess, f, t, rfl, rfl, -, hentered, -⟩ | ⟨hfailed, hkept⟩
      · obtain ⟨j, db, hj, hcommand, rfl⟩ := hasks
        have hrange : j.entered? w.directories w.files name = some (f, t) := by
          rw [Invocation.entered?, hcommand]
          simp only [hreach, if_true, Int64.ofInt_toInt]
        rw [entered?_of_success hj hsuccess, hrange, Option.toList_some, latest_singleton]
        exact hentered
      · rw [entered?_of_not_success hfailed]
        exact hkept
    · have hnone : ∀ path first last, AsksToRecord w arguments path first last →
          ¬ w.files.Reaches w.directories path name :=
        fun path first last hasks hreach => hrecords ⟨path, first, last, hasks, hreach⟩
      obtain ⟨hrange, hget⟩ := entered?_eq_none hi hnone
      have hno : entered? name w arguments = none := by
        by_cases hsuccess : (run w arguments).ending = .success
        · rw [entered?_of_success hi hsuccess, hrange]
        · exact entered?_of_not_success hsuccess
      rw [hno]
      exact hm.congr hget
  · obtain ⟨hfailed, -, -, hfiles⟩ := run_of_not_asks fun i hi => hasks ⟨i, hi⟩
    rw [entered?_of_not_success hfailed, hfiles]
    exact hm

/-- Every run treats the ranges of a file as a whole. -/
theorem isAtomic_run (arguments : List Text) : IsAtomic name m w arguments where
  recorded hasks hreach := by
    rcases run_recorded hm hasks hreach with
      ⟨hsuccess, f, t, hf, ht, -, hentered, hread⟩ | ⟨hfailed, hkept⟩
    · exact .inl ⟨hsuccess, f, t, Value.integer.inj hf, Value.integer.inj ht, hentered, hread⟩
    · exact .inr ⟨hfailed, output_of_not_success hfailed, hkept⟩
  succeeds_iff hasks hreach := by
    constructor
    · intro hsuccess
      rcases run_recorded hm hasks hreach with
        ⟨-, f, t, hf, ht, hfree, -⟩ | ⟨hfailed, -⟩
      · exact ⟨hfree, f, t, Value.integer.inj hf, Value.integer.inj ht⟩
      · exact absurd hsuccess hfailed
    · rintro ⟨hfree, f, t, rfl, rfl⟩
      have hdocument := recordSequence_of_free hm hreach hfree f t
      exact ((run_of_asksToRecord hasks).2.2 f t hdocument).1
  failed hending := by
    have hkept := holdsLedger_run hm arguments
    rw [entered?_of_not_success hending] at hkept
    exact ⟨output_of_not_success hending, hkept⟩

end

/-- A file that holds the ranges of a map is treated as a whole by every run, and after any runs,
one after the other, it holds for each first batch the end that was recorded last. -/
theorem ledgerFile_runs {fs : Files} {name : FileName} {m : Int64 → Option Int64}
    (hm : HoldsLedger fs name m) :
    (∀ w : Surroundings, w.files = fs → ∀ arguments, IsAtomic name m w arguments) ∧
      ∀ working runs, HoldsLedger (Run.along (proceed working) fs runs).1 name
        (latest (enteredAlong working name fs runs) m) := by
  refine ⟨fun w hw => ?_, fun working runs => ?_⟩
  · rw [← hw] at hm
    exact isAtomic_run hm
  · induction runs generalizing fs m with
    | nil => exact hm
    | cons r runs ih =>
      have hstep := holdsLedger_run (w := r.1.within working fs) hm r.2
      rw [Run.along_cons, enteredAlong, latest_append]
      exact ih hstep

/-- Arguments that ask for a range where the environment is empty ask to record it in the ledger of
the settings. -/
theorem asksToRecord_of_rangeAsked {arguments : List Text} {first last : Int}
    (h : rangeAsked? arguments = some (first, last)) (fs : Files) :
    AsksToRecord (alone [] fs) arguments "sequences.db" (.integer first) (.integer last) := by
  unfold rangeAsked? at h
  obtain ⟨i, hi, hrange⟩ := Option.bind_eq_some_iff.mp h
  cases hinvocation : Invocation.ofArguments .builtin (.ofDefaults .builtin) arguments with
  | error e =>
    rw [hinvocation] at hi
    cases hi
  | ok j =>
    rw [hinvocation] at hi
    obtain rfl := Option.some.inj hi
    obtain ⟨p, name, rest, command, extras, -, -, -, -, hj⟩ :=
      ofArguments_eq_ok_iff.mp hinvocation
    unfold Invocation.range? at hrange
    split at hrange
    · next m n hcommand =>
      obtain ⟨rfl, rfl⟩ := Prod.mk.inj (Option.some.inj hrange)
      refine ⟨j, none, ⟨_, _, rfl, hinvocation⟩, hcommand, ?_⟩
      rw [hj]
      rfl
    · cases hrange

/-- Surroundings without a node, in an empty directory beside another one for data. -/
def beside : Surroundings := { alone [] [] with directories := { others := [["data"]] } }

/-- A run that records a range in a ledger of that other directory. -/
def recordBeside (first last : Text) : Surroundings × List Text :=
  (beside, ["record-sequence", first, last, "--db", "/data/ledger.db"])

/-- Runs on one ledger: the first finds none, the second changes the end of the range, and the third
is given a number that is too large. -/
def besideRuns : List (Surroundings × List Text) :=
  [recordBeside "5" "6", recordBeside "5" "7", recordBeside "9223372036854775808" "1"]

/-- In an empty directory a range of small batches is recorded, and the file holds it alone. A
ledger elsewhere is made by the first of some runs, changed by the second and left as it is by the
third, which fails. -/
theorem ledgerFile_smallRange : HoldsLedger [] "sequences.db" (fun _ => none) ∧
    (run (alone [] []) ["record-sequence", "5", "6"]).ending = .success ∧
    HoldsLedger (run (alone [] []) ["record-sequence", "5", "6"]).files "sequences.db"
      (Function.update (fun _ => none) 5 (some 6)) ∧
    HoldsLedger [] "/data/ledger.db" (fun _ => none) ∧
    (Run.along (proceed beside.directories.working) [] besideRuns).2.map (·.ending.isSuccess) =
      [true, true, false] ∧
    ((Run.along (proceed beside.directories.working) [] besideRuns).2.drop 2).map (·.output) =
      [""] ∧
    HoldsLedger (Run.along (proceed beside.directories.working) [] besideRuns).1 "/data/ledger.db"
      (Function.update (fun _ => none) 5 (some 7)) := by
  have hm (name : FileName) : HoldsLedger [] name (fun _ => none) :=
    ⟨.empty, rfl, .inr ⟨rfl, rfl⟩⟩
  have hrange : rangeAsked? ["record-sequence", "5", "6"] = some (5, 6) := by decide +kernel
  have hasks := asksToRecord_of_rangeAsked hrange []
  have hreach : Files.Reaches {} [] "sequences.db" "sequences.db" := by decide +kernel
  have hatomic := (ledgerFile_runs (hm "sequences.db")).1 (alone [] []) rfl
    ["record-sequence", "5", "6"]
  have hsuccess := (hatomic.succeeds_iff hasks hreach).mpr
    ⟨⟨.ofDatabase .empty, rfl, rfl⟩, 5, 6, by decide, by decide⟩
  have hruns := (ledgerFile_runs (hm "/data/ledger.db")).2 beside.directories.working besideRuns
  have hentered : enteredAlong beside.directories.working "/data/ledger.db" [] besideRuns =
      [(5, 6), (5, 7)] ∧
      (Run.along (proceed beside.directories.working) [] besideRuns).2.map (·.ending.isSuccess) =
        [true, true, false] ∧
      ((Run.along (proceed beside.directories.working) [] besideRuns).2.drop 2).map (·.output) =
        [""] := by decide +kernel
  have hlatest : latest [(5, 6), (5, 7)] (fun _ => none) =
      Function.update (fun _ => none) 5 (some 7) := by
    rw [← List.singleton_append, latest_append, latest_singleton, latest_singleton,
      Function.update_idem]
  obtain ⟨hentered, hendings, houtput⟩ := hentered
  rw [hentered, hlatest] at hruns
  rcases hatomic.recorded hasks hreach with ⟨-, f, t, hf, ht, hheld, -⟩ | ⟨hfailed, -⟩
  · have hfirst : f = 5 := Int64.toInt_inj.mp hf.symm
    have hlast : t = 6 := Int64.toInt_inj.mp ht.symm
    rw [hfirst, hlast] at hheld
    exact ⟨hm _, hsuccess, hheld, hm _, hendings, houtput, hruns⟩
  · exact absurd hsuccess hfailed

end CommandLine

end BatchFrontier
