import BatchFrontier.CommandLine.Run
import BatchFrontier.Proofs.CommandTables
import BatchFrontier.Proofs.Escapes

/-!
# How recording a range escapes

Whatever the database refuses is expected, and so is everything that happens to its file. A
parameter is not: an integer with more than 64 bits has no cell, and nobody expects that. So a range
that is recorded escapes if it reaches the database and one of its ends is too large.
-/

namespace BatchFrontier

namespace Store

namespace Cell

/-- That a value is an integer with more than 64 bits. -/
def IsHuge (v : Value) : Prop := ∃ n : Int, v = .integer n ∧ fits n = false

theorem ofValue_escapes_iff (position : Nat) (v : Value) :
    Escapes (ofValue position v) ↔ IsHuge v := by
  cases v with
  | integer n =>
    by_cases hfits : fits n = true
    · refine iff_of_false (by simp [ofValue, hfits]) ?_
      rintro ⟨m, hm, hhuge⟩
      obtain rfl := Value.integer.inj hm
      exact Bool.false_ne_true (hhuge.symm.trans hfits)
    · have hhuge : fits n = false := by simpa using hfits
      exact iff_of_true (by simp [ofValue, hhuge, Fault.isExpected]) ⟨n, rfl, hhuge⟩
  | text t =>
    refine iff_of_false ?_ (by simp [IsHuge])
    cases hbytes : Utf8.encodeText t <;> simp [ofValue, hbytes, Fault.isExpected]
  | _ => exact iff_of_false (by simp [ofValue, Fault.isExpected]) (by simp [IsHuge])

end Cell

namespace Connection

theorem refuse_expected {α : Type} (c : Connection) (f : Fault) :
    FailsOnly BatchFrontier.Fault.isExpected (c.refuse (α := α) f).2 := .error rfl

theorem prepare_expected (c : Connection) (text : String) :
    FailsOnly BatchFrontier.Fault.isExpected (c.prepare text).2 := by
  unfold prepare
  split
  · exact refuse_expected c _
  · split
    · exact .ok _
    · simp only
      split
      · exact refuse_expected _ _
      · exact .ok _

theorem run_expected (c : Connection) (text : String) (command : Command) (cells : List Cell) :
    FailsOnly BatchFrontier.Fault.isExpected (c.run text command cells).2 := by
  unfold run
  simp only
  split
  · exact refuse_expected _ _
  · split
    · exact refuse_expected _ _
    · exact .ok _

theorem commit_expected (c : Connection) :
    FailsOnly BatchFrontier.Fault.isExpected c.commit.2 := by
  unfold commit
  split
  · split
    · exact refuse_expected _ _
    · exact .ok _
  · exact .ok _

/-- Carrying out a command escapes where its text is read and taking its parameters escapes. -/
theorem execute_escapes_iff (c : Connection) (text : String) (parameters : List Value) :
    Escapes (c.execute text parameters).2 ↔ ∃ command,
      (c.prepare text).2 = .ok command ∧
        Escapes (((c.prepare text).1.opened command.verb).bind parameters).2 := by
  have hprepare := prepare_expected c text
  unfold execute
  cases hread : c.prepare text with
  | mk e r =>
    rw [hread] at hprepare
    cases r with
    | error f => exact iff_of_false (by simp [hprepare f rfl]) (by simp)
    | ok command =>
      simp only [Except.ok.injEq, exists_eq_left']
      rw [← opened]
      cases hbind : (e.opened command.verb).bind parameters with
      | mk e' r =>
        cases r with
        | error f => exact escapes_error_iff.trans escapes_error_iff.symm
        | ok cells =>
          exact iff_of_false (run_expected e' text command cells).not_escapes (not_escapes_ok _)

/-- If the database remembers no failure, taking two parameters escapes like the first of them that
has no cell. -/
theorem bind_escapes_iff {c : Connection} (h : c.lastFailure = none) (v w : Value) :
    Escapes (c.bind [v, w]).2 ↔
      FirstEscapes [⟨∃ cell, Cell.ofValue 1 v = .ok cell, Cell.IsHuge v⟩,
        ⟨∃ cell, Cell.ofValue 2 w = .ok cell, Cell.IsHuge w⟩] := by
  rw [firstEscapes_cons_iff, firstEscapes_cons_iff, ← Cell.ofValue_escapes_iff 1 v,
    ← Cell.ofValue_escapes_iff 2 w]
  simp only [not_firstEscapes_nil, and_false, or_false]
  unfold bind
  cases hcell : Cell.ofValue 1 v with
  | error f => simp [hcell, h]
  | ok cell =>
    have hcells : Cell.ofValues 2 [w] = Cell.ofValue 2 w >>= fun cell => .ok [cell] := rfl
    simp only [hcell, escapes_map_iff, hcells, escapes_bind_iff, not_escapes_ok, and_false,
      exists_false, or_false, false_or, Except.ok.injEq, exists_eq', true_and]

/-- A text that is read leaves no failure to remember, unless there was one. -/
theorem lastFailure_prepare {c : Connection} {text : String} {command : Command}
    (h : c.lastFailure = none) (hread : (c.prepare text).2 = .ok command) :
    ((c.prepare text).1.opened command.verb).lastFailure = none := by
  have hprepare : (c.prepare text).1.lastFailure = none := by
    unfold prepare at hread ⊢
    split at hread
    · exact absurd hread (by simp [refuse])
    · split at hread
      · next hrecent => simp [hrecent, remember, h]
      · next hrecent =>
        simp only at hread
        split at hread
        · exact absurd hread (by simp [refuse])
        · next hcheck => simp [hrecent, hcheck]
  unfold opened begin
  split
  · split
    · exact hprepare
    · rfl
  · exact hprepare

end Connection

namespace Database

variable {d d' : Database} {n : TableName}

/-- A table that is in the schema where it would be made is found under its name. -/
theorem exists_writable_of_tableIn? {s : Schema} (hcreatable : creatable n = .ok s)
    (htable : (d.tableIn? s n.table).isSome = true) (known : List String) :
    ∃ found, d.writable known n = .ok found := by
  have hsearched : s ∈ searched n := by
    rcases (schema_of_creatable hcreatable).2 with ⟨hschema, rfl⟩ | ⟨t, hschema, hs⟩
    · simp [searched, hschema]
    · simp [searched, hschema, hs]
  have hlocate : (d.locate? n).isSome = true := by
    rw [locate?, List.find?_isSome]
    exact ⟨s, hsearched, htable⟩
  obtain ⟨s', hs'⟩ := Option.isSome_iff_exists.mp hlocate
  have htable' : (d.tableIn? s' n.table).isSome = true := by
    simpa using List.find?_some hs'
  obtain ⟨t, ht⟩ := Option.isSome_iff_exists.mp htable'
  have hfind : d.find? n = some (s', t) := by rw [find?, hs', Option.bind_some, ht]; rfl
  exact ⟨(s', t), by rw [writable, ownTable?_eq_none (schema_of_creatable hcreatable).1, hfind]⟩

/-- A command that makes a table and was run has made it. -/
theorem create_of_run {known : List String} {cells : List Cell} {rows : List Row}
    (h : d.run known ⟨.create, n⟩ cells = .ok (d', rows)) : d.create n = .ok d' := by
  cases cells with
  | cons cell cells => exact absurd h (by simp [run])
  | nil =>
    have hrun : d.run known ⟨.create, n⟩ [] = (d.create n).map fun d => (d, []) := rfl
    rw [hrun] at h
    cases hcreate : d.create n with
    | error f =>
      rw [hcreate] at h
      cases h
    | ok e =>
      rw [hcreate] at h
      rw [(Prod.mk.inj (Except.ok.inj h)).1]

/-- A table that was made can be written to. -/
theorem exists_writable_of_create (h : d.create n = .ok d') (known : List String) :
    ∃ found, d'.writable known n = .ok found := by
  unfold create at h
  cases hcreatable : creatable n with
  | error f =>
    rw [hcreatable] at h
    cases h
  | ok s =>
    simp only [hcreatable, bind, Except.bind] at h
    split at h
    · cases h
    · split at h
      · next htable =>
        obtain rfl := Except.ok.inj h
        exact exists_writable_of_tableIn? hcreatable htable known
      · obtain rfl := Except.ok.inj h
        refine exists_writable_of_tableIn? hcreatable ?_ known
        have hnamed : isNamed n.table ⟨n.table, []⟩ = true := by simp [isNamed]
        cases s <;> simp [tableIn?, withTables, tables, hnamed]

end Database

end Store

namespace Ledger

open Store (Cell Command Connection)

theorem createSchema_expected (l : Ledger) (handle : Handle) (c : Connection) :
    FailsOnly Fault.isExpected (l.createSchema handle c).2 := by
  have hexecute : ¬ Escapes (handle.execute c l.schemaStatement).2 := by
    rw [Handle.execute, Connection.execute_escapes_iff]
    rintro ⟨command, -, hbind⟩
    exact not_escapes_ok _ hbind
  rw [failsOnly_iff_not_escapes, createSchema_eq, escapes_map_iff]
  exact hexecute

section

variable {l : Ledger} (hname : isTableName l.table.toList = true)
  (hfree : l.tableName.isFree = true) {c : Connection}

include hname hfree

/-- After the table was made it can be written to, and the database remembers no failure. -/
theorem writable_of_createSchema (h : (l.createSchema .connection c).2 = .ok ()) :
    (l.createSchema .connection c).1.lastFailure = none ∧
      ∀ known, ∃ found, (l.createSchema .connection c).1.working.writable known l.tableName =
        .ok found := by
  rw [createSchema_eq, execute_connection] at h ⊢
  cases hrows : (c.execute l.schemaStatement.text l.schemaStatement.parameters).2 with
  | error f =>
    rw [hrows] at h
    cases h
  | ok rows =>
    obtain ⟨command, cells, known, d, hcommand, -, hrun, hrests, hlast, -⟩ :=
      Connection.execute_of_ok c _ hrows
    rw [← Frame.text_create, Frame.ofText_text Frame.create_lawful hname hfree rfl] at hcommand
    obtain rfl := Except.ok.inj hcommand
    have hmade := Store.Database.create_of_run hrun
    rw [hrests.working, (Connection.keep_eq _ d).1]
    exact ⟨hlast, Store.Database.exists_writable_of_create hmade⟩

/-- After the table was made, recording a range escapes like the first of its ends that is too
large. -/
theorem add_escapes_iff (hsuits : l.style = .qmark) (hlast : c.lastFailure = none)
    (hwritable : ∀ known, ∃ found, c.working.writable known l.tableName = .ok found)
    (first last : Value) : Escapes (l.add .connection c first last).2 ↔
      FirstEscapes [⟨∃ cell, Cell.ofValue 1 first = .ok cell, Cell.IsHuge first⟩,
        ⟨∃ cell, Cell.ofValue 2 last = .ok cell, Cell.IsHuge last⟩] := by
  have htext : Command.ofText (l.addStatement first last).text = .ok ⟨.upsert, l.tableName⟩ := by
    rw [← Frame.text_upsert]
    exact Frame.ofText_text Frame.upsert_lawful hname hfree
      (congrArg Frame.upsert.after (by rw [hsuits, PlaceholderStyle.mark]))
  have hcheck (known : List String) :
      c.working.check known ⟨.upsert, l.tableName⟩ = .ok () := by
    obtain ⟨found, hfound⟩ := hwritable known
    rw [Store.Database.check, hfound]
    rfl
  have hread := (Connection.prepare_of_allowed htext hcheck).2
  have hforgot := Connection.lastFailure_prepare hlast hread
  rw [add_eq, escapes_map_iff, execute_connection, Connection.execute_escapes_iff, hread]
  simp only [Except.ok.injEq, exists_eq_left']
  exact Connection.bind_escapes_iff hforgot first last

end

end Ledger

namespace Files

open Store (Location)

/-- A connection to the database at a path. -/
def connect (ds : Directories) (fs : Files) (path : Text) : Except Fault Store.Connection := do
  let (_, opened) ← fs.openDatabase ds path
  opened.connection

/-- Connecting to a database fails with what is expected. -/
theorem connect_expected (ds : Directories) (fs : Files) (path : Text) :
    FailsOnly Fault.isExpected (fs.connect ds path) := by
  have hfile (l : Location) (name : FileName) :
      FailsOnly Fault.isExpected (fs.openFile l name >>= fun r => r.2.connection) := by
    unfold openFile
    simp only
    split
    · exact .ok _
    · exact .ok _
    · exact .ok _
    · exact .error rfl
    · split
      · exact .ok _
      · exact .error rfl
  have hplace (l : Location) :
      FailsOnly Fault.isExpected (fs.openPlace ds l >>= fun r => r.2.connection) := by
    unfold openPlace
    split
    · exact .error rfl
    · split
      · exact .error rfl
      · split
        · exact hfile l _
        · split
          · exact .error rfl
          · exact .error rfl
        · exact .error rfl
  rw [connect, openDatabase, bind_assoc]
  refine (nameOf_expected path).bind fun name _ => ?_
  generalize Location.ofName name = location
  cases location with
  | error u =>
    refine .error ?_
    unfold unmetFault
    split <;> rfl
  | ok l =>
    by_cases hpassing : l.isPassing = true
    · simp only [hpassing, if_true]
      exact .ok _
    · simp only [hpassing, Bool.false_eq_true, if_false]
      exact hplace l

end Files

namespace CommandLine

open Store (Cell)

/-- That the table of the ledger can be made in the database at a path. -/
def TakesLedger (ds : Directories) (fs : Files) (path : Text) : Prop :=
  ∃ c, fs.connect ds path = .ok c ∧ (Ledger.default.createSchema .connection c).2 = .ok ()

/-- What is examined to record a range: whether the table of the ledger can be made, and whether
both ends of the range have cells. -/
def recordings (ds : Directories) (fs : Files) (path : Text) (first last : Value) :
    List Examination :=
  [⟨TakesLedger ds fs path, False⟩,
    ⟨∃ cell, Cell.ofValue 1 first = .ok cell, Cell.IsHuge first⟩,
    ⟨∃ cell, Cell.ofValue 2 last = .ok cell, Cell.IsHuge last⟩]

theorem isTableName_default : Ledger.isTableName Ledger.default.table.toList = true := by
  decide +kernel

theorem isFree_default : Ledger.default.tableName.isFree = true := by decide +kernel

/-- Recording a range makes the table, adds the range and commits both; where one of the first two
is refused, it rolls back. -/
theorem recordIn_eq (c : Store.Connection) (first last : Value) : recordIn c first last =
    match (Ledger.default.createSchema .connection c).2 with
    | .error f => ((Ledger.default.createSchema .connection c).1.rollback, .error f)
    | .ok () =>
      match (Ledger.default.add .connection (Ledger.default.createSchema .connection c).1 first
        last).2 with
      | .error f => ((Ledger.default.add .connection
          (Ledger.default.createSchema .connection c).1 first last).1.rollback, .error f)
      | .ok () => (Ledger.default.add .connection (Ledger.default.createSchema .connection c).1
          first last).1.commit := by
  -- What is done to the database is left abstract, or else it would be carried out here.
  obtain ⟨create, hcreate⟩ : ∃ create, Ledger.default.createSchema .connection = create :=
    ⟨_, rfl⟩
  obtain ⟨add, hadd⟩ : ∃ add, Ledger.default.add .connection = add := ⟨_, rfl⟩
  generalize hrecord : recordIn = record
  delta recordIn at hrecord
  rw [hcreate, hadd] at hrecord
  rw [hcreate, hadd]
  subst hrecord
  rfl

/-- Recording a range fails as making the table does, or as adding the range does, or as committing
both. -/
theorem recordIn_result (c : Store.Connection) (first last : Value) :
    (recordIn c first last).2 = (Ledger.default.createSchema .connection c).2 >>= fun _ =>
      (Ledger.default.add .connection (Ledger.default.createSchema .connection c).1 first last).2
        >>= fun _ =>
      (Ledger.default.add .connection (Ledger.default.createSchema .connection c).1 first
        last).1.commit.2 := by
  have hrecord := recordIn_eq c first last
  obtain ⟨created, hcreate⟩ : ∃ e, Ledger.default.createSchema .connection c = e := ⟨_, rfl⟩
  obtain ⟨add, hadd⟩ : ∃ add, Ledger.default.add .connection = add := ⟨_, rfl⟩
  rw [hcreate, hadd] at hrecord
  rw [hcreate, hadd, hrecord]
  cases created.2 with
  | error f => rfl
  | ok u =>
    simp only [bind, Except.bind]
    cases (add created.1 first last).2 <;> rfl

/-- Recording a range in a database escapes if the table can be made and an end of the range is too
large. -/
theorem recordIn_escapes_iff (c : Store.Connection) (first last : Value) :
    Escapes (recordIn c first last).2 ↔
      (Ledger.default.createSchema .connection c).2 = .ok () ∧
        FirstEscapes [⟨∃ cell, Cell.ofValue 1 first = .ok cell, Cell.IsHuge first⟩,
          ⟨∃ cell, Cell.ofValue 2 last = .ok cell, Cell.IsHuge last⟩] := by
  have hschema := Ledger.createSchema_expected .default .connection c
  have hcommit (e : Store.Connection) := (Store.Connection.commit_expected e).not_escapes
  rw [recordIn_result, escapes_bind_iff]
  simp only [hschema.not_escapes, false_or, escapes_bind_iff, hcommit, and_false, exists_false,
    or_false]
  constructor
  · rintro ⟨u, hmade, hescapes⟩
    obtain ⟨hlast, hwritable⟩ :=
      Ledger.writable_of_createSchema isTableName_default isFree_default hmade
    exact ⟨hmade, (Ledger.add_escapes_iff isTableName_default isFree_default rfl hlast hwritable
      first last).mp hescapes⟩
  · rintro ⟨hmade, hfirst⟩
    obtain ⟨hlast, hwritable⟩ :=
      Ledger.writable_of_createSchema isTableName_default isFree_default hmade
    exact ⟨(), hmade, (Ledger.add_escapes_iff isTableName_default isFree_default rfl hlast
      hwritable first last).mpr hfirst⟩

/-- A range is recorded through a connection. -/
theorem recordSequence_result (ds : Directories) (fs : Files) (path : Text)
    (first last : Value) :
    (recordSequence ds fs path first last).document.result =
      fs.connect ds path >>= fun c => (recordIn c first last).2 >>= fun _ =>
        (sequenceDocument first last).result := by
  obtain ⟨record, hrecord⟩ : ∃ record, recordIn = record := ⟨_, rfl⟩
  unfold recordSequence Files.connect
  rw [hrecord]
  cases hopen : fs.openDatabase ds path with
  | error f => rfl
  | ok r =>
    obtain ⟨fs', opened⟩ := r
    cases hconnection : opened.connection with
    | error f => simp [hconnection, bind, Except.bind]
    | ok c =>
      simp only [hconnection, bind, Except.bind]
      cases record c first last with
      | mk e r => cases r <;> rfl

/-- Recording a range in a file escapes as the first of its examinations does. -/
theorem recordSequence_escapes_iff (ds : Directories) (fs : Files) (path : Text)
    (first last : Value) :
    Escapes (recordSequence ds fs path first last).document.result ↔
      FirstEscapes (recordings ds fs path first last) := by
  have hconnect := Files.connect_expected ds fs path
  have hdocument : ¬ Escapes (sequenceDocument first last).result := not_escapes_ok _
  rw [recordSequence_result, escapes_bind_iff, recordings, firstEscapes_cons_iff]
  simp only [hconnect.not_escapes, false_or, escapes_bind_iff, hdocument, and_false, exists_false,
    or_false, recordIn_escapes_iff, TakesLedger]
  constructor
  · rintro ⟨c, hc, hmade, hfirst⟩
    exact ⟨⟨c, hc, hmade⟩, hfirst⟩
  · rintro ⟨⟨c, hc, hmade⟩, hfirst⟩
    exact ⟨c, hc, hmade, hfirst⟩

end CommandLine

end BatchFrontier
