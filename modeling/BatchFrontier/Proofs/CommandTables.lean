import BatchFrontier.Proofs.SoundTables

/-!
# What commands do to the tables

A command that is refused leaves all tables as they were, wherever it fails: reading its text,
opening a transaction and taking its parameters change no table, and neither does a run that fails.
It may damage the transaction, though, if the table that it makes cannot be read back. A command
that is carried out leaves exactly the tables that the database gives for it.
-/

namespace BatchFrontier.Store

/-- Each of two parameters has a cell if both are taken. -/
theorem Cell.ofValue_of_ofValues {position : Nat} {v w : Value} {a b : Cell}
    (h : ofValues position [v, w] = .ok [a, b]) :
    ofValue position v = .ok a ∧ ofValue (position + 1) w = .ok b := by
  obtain ⟨cell, hv, h⟩ := bind_eq_ok_iff.mp h
  obtain ⟨cells, hcells, h⟩ := bind_eq_ok_iff.mp h
  obtain ⟨other, hw, hother⟩ := bind_eq_ok_iff.mp hcells
  obtain ⟨rfl, rfl⟩ := List.cons.inj (Except.ok.inj h)
  obtain ⟨rfl, -⟩ := List.cons.inj (Except.ok.inj hother)
  exact ⟨hv, hw⟩

/-- That a command makes a table that cannot be read back, and so damages a transaction. -/
def Command.Damages (command : Command) : Prop :=
  command.verb = .create ∧ Database.isUnreadable command.table.table = true

namespace Connection

/-- That two connections hold the same tables, in a transaction or not, and are equally free to
write. -/
structure Rests (e c : Connection) : Prop where
  committed : e.committed = c.committed
  pending : e.pending = c.pending
  barrier : e.barrier = c.barrier
  isDamaged : e.isDamaged = c.isDamaged

/-- That two connections hold the same tables. -/
structure SameTables (e c : Connection) : Prop where
  committed : e.committed = c.committed
  working : e.working = c.working

theorem Alike.rests {e c : Connection} (h : e.Alike c) : e.Rests c :=
  ⟨h.committed, h.pending, h.barrier, h.isDamaged⟩

namespace Rests

variable {c e f : Connection}

theorem refl (c : Connection) : c.Rests c := ⟨rfl, rfl, rfl, rfl⟩

theorem trans (h : c.Rests e) (h' : e.Rests f) : c.Rests f :=
  ⟨h.committed.trans h'.committed, h.pending.trans h'.pending, h.barrier.trans h'.barrier,
    h.isDamaged.trans h'.isDamaged⟩

theorem working (h : e.Rests c) : e.working = c.working := by
  rw [Connection.working, Connection.working, h.committed, h.pending]

theorem sameTables (h : e.Rests c) : e.SameTables c := ⟨h.committed, h.working⟩

theorem opened (h : e.Rests c) (verb : Verb) : (e.opened verb).Rests (c.opened verb) := by
  unfold Connection.opened begin
  split
  · rw [h.pending]
    split
    · exact h
    · exact ⟨h.committed, by simp [h.committed], h.barrier, h.isDamaged⟩
  · exact h

theorem keep (h : e.Rests c) (d : Database) : (e.keep d).Rests (c.keep d) := by
  unfold Connection.keep
  rw [h.pending]
  split
  · exact ⟨h.committed, rfl, h.barrier, h.isDamaged⟩
  · exact ⟨rfl, rfl, h.barrier, h.isDamaged⟩

end Rests

namespace SameTables

variable {c e f : Connection}

theorem refl (c : Connection) : c.SameTables c := ⟨rfl, rfl⟩

theorem trans (h : c.SameTables e) (h' : e.SameTables f) : c.SameTables f :=
  ⟨h.committed.trans h'.committed, h.working.trans h'.working⟩

end SameTables

/-- A refusal moves nothing. -/
theorem rests_refuse {α : Type} (c : Connection) (f : Fault) : (c.refuse (α := α) f).1.Rests c :=
  ⟨rfl, rfl, rfl, rfl⟩

variable (c : Connection) (text : String) (command : Command)

/-- Reading a text moves nothing. -/
theorem rests_prepare : (c.prepare text).1.Rests c := by
  unfold prepare
  split
  · exact rests_refuse c _
  · next command _ =>
    have hmeet := (alike_meet c command).rests
    split
    · exact ⟨rfl, rfl, rfl, rfl⟩
    · simp only
      split
      · exact (rests_refuse _ _).trans hmeet
      · exact ⟨hmeet.committed, hmeet.pending, hmeet.barrier, hmeet.isDamaged⟩

/-- Taking parameters moves nothing. -/
theorem rests_bind (parameters : List Value) : (c.bind parameters).1.Rests c := by
  unfold bind
  split
  · exact .refl c
  · split
    · exact .refl c
    · exact ⟨rfl, rfl, rfl, rfl⟩

/-- Opening a transaction changes no table and leaves a connection as free to write. -/
theorem opened_eq (verb : Verb) : (c.opened verb).SameTables c ∧
    (c.opened verb).barrier = c.barrier ∧ (c.opened verb).isDamaged = c.isDamaged := by
  have hworking := working_opened c verb
  unfold opened begin at hworking ⊢
  by_cases hverb : verb = .upsert
  · rw [if_pos hverb] at hworking ⊢
    cases hpending : c.pending with
    | some d => exact ⟨.refl c, rfl, rfl⟩
    | none =>
      rw [hpending] at hworking
      exact ⟨⟨rfl, hworking⟩, rfl, rfl⟩
  · rw [if_neg hverb]
    exact ⟨.refl c, rfl, rfl⟩

/-- The parameters that were taken are the cells of the values. -/
theorem ofValues_of_bind {parameters : List Value} {cells : List Cell}
    (h : (c.bind parameters).2 = .ok cells) : Cell.ofValues 1 parameters = .ok cells := by
  unfold bind at h
  cases parameters with
  | nil => exact h
  | cons v vs =>
    simp only at h
    split at h
    · cases h
    · next cell hcell =>
      obtain ⟨others, hothers, rfl⟩ := map_eq_ok_iff.mp h
      rw [Cell.ofValues, hcell, hothers]
      rfl

/-- The connection before a command is run: its text is understood, unless the transaction is
damaged and the text was understood to write. -/
def settled : Connection :=
  if c.isDamaged && c.writing.contains text then c else (c.meet command).understand text command

/-- A command is run on the settled connection unless there is an obstacle. -/
theorem run_eq (cells : List Cell) : c.run text command cells =
    match (c.settled text command).obstacle? text with
    | some f => (c.settled text command).refuse f
    | none =>
      let e := (c.settled text command).making text command
      match e.working.run e.known command cells with
      | .error f => (e.shaken f).refuse f
      | .ok (d, rows) => (e.keep d, .ok rows) := rfl

theorem alike_settled : (c.settled text command).Alike c := by
  unfold settled
  split
  · exact .refl c
  · exact (alike_understand _ text command).trans (alike_meet c command)

/-- A refused command changes no table; it damages the transaction if the schema did not read
back. -/
theorem shaken_eq (f : Fault) : (c.shaken f).SameTables c ∧
    ((c.shaken f).isDamaged = true → c.isDamaged = true ∨ ∃ name, f = .malformedSchema name) := by
  unfold shaken
  split
  · next name => exact ⟨⟨rfl, rfl⟩, fun _ => .inr ⟨name, rfl⟩⟩
  · exact ⟨.refl c, .inl⟩

/-- The schema does not read back only after a command that makes a table that cannot be read
back. -/
theorem damages_of_run {d : Database} {known : List String} {command : Command} {cells : List Cell}
    {name : String} (h : d.run known command cells = .error (.malformedSchema name)) :
    command.Damages := by
  have hwrite : ∀ n, d.writable known n ≠ .error (.malformedSchema name) := by
    intro n hn
    unfold Database.writable Function.writeFault at hn
    split at hn <;> grind
  have hread : ∀ n, d.readable n ≠ .error (.malformedSchema name) := by
    intro n hn
    unfold Database.readable Function.readFault at hn
    split at hn <;> grind
  obtain ⟨verb, n⟩ := command
  unfold Database.run at h
  split at h
  · next hverb =>
    refine ⟨hverb, ?_⟩
    rw [map_eq_error_iff, Database.create, bind_eq_error_iff] at h
    rcases h with hcreatable | ⟨s, -, hmade⟩
    · unfold Database.creatable at hcreatable
      split at hcreatable
      · cases hcreatable
      · split at hcreatable <;> cases hcreatable
    · split at hmade
      · next hunreadable => exact hunreadable
      · split at hmade <;> cases hmade
  · rw [map_eq_error_iff, Database.upsert, bind_eq_error_iff] at h
    rcases h with hwritable | ⟨found, -, hwritten⟩
    · exact absurd hwritable (hwrite n)
    · simp only at hwritten
      split at hwritten <;> cases hwritten
  · exact absurd (map_eq_error_iff.mp h) (hread n)
  · exact absurd (map_eq_error_iff.mp h) (hread n)
  · cases h

/-- A command whose run is refused leaves all tables as they were, and damages the transaction only
if it makes a table that cannot be read back. -/
theorem run_of_error {cells : List Cell} {f : BatchFrontier.Fault}
    (h : (c.run text command cells).2 = .error f) :
    (c.run text command cells).1.SameTables c ∧
      ((c.run text command cells).1.isDamaged = true → c.isDamaged = true ∨ command.Damages) := by
  have hsettled := (alike_settled c text command).rests
  have hmaking := (alike_making (c.settled text command) text command).rests.trans hsettled
  rw [run_eq] at h ⊢
  simp only at h ⊢
  split
  · next fault hobstacle =>
    have hrefused : ((c.settled text command).refuse (α := List Row) fault).1.Rests c :=
      (rests_refuse _ fault).trans hsettled
    exact ⟨hrefused.sameTables, fun hdamaged => .inl (hrefused.isDamaged ▸ hdamaged)⟩
  · next hobstacle =>
    simp only [hobstacle] at h
    split
    · next fault hrun =>
      obtain ⟨htables, hdamage⟩ :=
        shaken_eq ((c.settled text command).making text command) fault
      have hrefused : ((((c.settled text command).making text command).shaken fault).refuse
          (α := List Row) fault).1.Rests _ := rests_refuse _ fault
      refine ⟨(hrefused.sameTables.trans htables).trans hmaking.sameTables, fun hdamaged => ?_⟩
      rcases hdamage (hrefused.isDamaged ▸ hdamaged) with hbefore | ⟨name, rfl⟩
      · exact .inl (hmaking.isDamaged ▸ hbefore)
      · exact .inr (damages_of_run hrun)
    · next d rows hrun =>
      rw [hrun] at h
      cases h

/-- A text that can be written to is understood to write. -/
theorem mem_writing_settled {n : TableName} {found : Schema × Table}
    (h : c.working.writable (c.settled text ⟨.upsert, n⟩).known n = .ok found) :
    text ∈ (c.settled text ⟨.upsert, n⟩).writing := by
  unfold settled at h ⊢
  split
  · next hsettled =>
    rw [Bool.and_eq_true, List.contains_iff_mem] at hsettled
    exact hsettled.2
  · next hsettled =>
    rw [if_neg hsettled] at h
    have hworking := (alike_meet c ⟨.upsert, n⟩).working
    have hwritten : (c.meet ⟨.upsert, n⟩).working.isWrittenBy (c.meet ⟨.upsert, n⟩).known
        ⟨.upsert, n⟩ = true := by
      rw [hworking, Database.isWrittenBy]
      have hknown : c.working.writable (c.meet ⟨.upsert, n⟩).known n = .ok found := h
      rw [hknown]
      rfl
    rw [understand]
    simp only [hwritten, if_true]
    exact List.mem_cons_self

/-- A connection that keeps tables remembers no failure. -/
theorem lastFailure_keep (d : Database) : (c.keep d).lastFailure = none := by
  unfold keep
  cases c.pending <;> rfl

/-- A command that was run was carried out on the tables and leaves those after it, with no failure
to remember. A command that writes a row was free to. -/
theorem run_of_ok {cells : List Cell} {rows : List Row}
    (h : (c.run text command cells).2 = .ok rows) :
    ∃ known d, c.working.run known command cells = .ok (d, rows) ∧
      (c.run text command cells).1.Rests (c.keep d) ∧
      (c.run text command cells).1.lastFailure = none ∧
      (command.verb = .upsert → c.isDamaged = false ∧ c.barrier = none) := by
  have hsettled := (alike_settled c text command).rests
  have hmaking := (alike_making (c.settled text command) text command).rests.trans hsettled
  rw [run_eq] at h ⊢
  simp only at h ⊢
  split at h
  · cases h
  · next hobstacle =>
    split at h
    · cases h
    · next d found hrun =>
      obtain rfl : found = rows := Except.ok.inj h
      rw [hmaking.working] at hrun
      refine ⟨_, d, hrun, hmaking.keep d, lastFailure_keep _ d, ?_⟩
      intro hverb
      obtain ⟨verb, n⟩ := command
      obtain rfl : verb = .upsert := hverb
      have hunmoved : (c.settled text ⟨.upsert, n⟩).making text ⟨.upsert, n⟩ =
          c.settled text ⟨.upsert, n⟩ := by
        rw [making, if_pos]
        intro heq
        cases heq
      rw [hunmoved] at hrun
      obtain ⟨-, -, s, t, -, htable, -⟩ := Database.exists_withRow_of_run hrun
      have hmem := mem_writing_settled c text htable
      rw [obstacle?, if_neg (by simp [hmem]), hsettled.isDamaged, hsettled.barrier] at hobstacle
      split at hobstacle
      · cases hobstacle
      · next hdamage => exact ⟨by simpa using hdamage, hobstacle⟩

/-- A text that is carried out is read, its parameters are taken in a transaction if it writes a
row, and it is run. -/
theorem execute_eq (parameters : List Value) : c.execute text parameters =
    match (c.prepare text).2 with
    | .error f => ((c.prepare text).1, .error f)
    | .ok command =>
      match (((c.prepare text).1.opened command.verb).bind parameters).2 with
      | .error f => ((((c.prepare text).1.opened command.verb).bind parameters).1, .error f)
      | .ok cells =>
        (((c.prepare text).1.opened command.verb).bind parameters).1.run text command cells := by
  unfold execute
  cases hread : c.prepare text with
  | mk e r =>
    cases r with
    | error f => rfl
    | ok command =>
      simp only
      rw [← opened]
      cases hbind : (e.opened command.verb).bind parameters with
      | mk e' r => cases r <;> rfl

/-- A text that is not carried out leaves all tables as they were, and damages the transaction only
if it makes a table that cannot be read back. -/
theorem execute_of_error {parameters : List Value} {f : BatchFrontier.Fault}
    (h : (c.execute text parameters).2 = .error f) :
    (c.execute text parameters).1.SameTables c ∧
      ((c.execute text parameters).1.isDamaged = true → c.isDamaged = true ∨
        ∃ command, Command.ofText text = .ok command ∧ command.Damages) := by
  have hread := rests_prepare c text
  rw [execute_eq] at h ⊢
  cases hcommand : (c.prepare text).2 with
  | error f' => exact ⟨hread.sameTables, fun hdamaged => .inl (hread.isDamaged ▸ hdamaged)⟩
  | ok command =>
    obtain ⟨htext, -⟩ := command_of_prepare (Prod.ext rfl hcommand)
    obtain ⟨htables, -, hdamage⟩ := opened_eq (c.prepare text).1 command.verb
    have hbound := rests_bind ((c.prepare text).1.opened command.verb) parameters
    have htaken := (hbound.sameTables.trans htables).trans hread.sameTables
    have hdamaged := hbound.isDamaged.trans (hdamage.trans hread.isDamaged)
    simp only [hcommand] at h ⊢
    cases hcells : (((c.prepare text).1.opened command.verb).bind parameters).2 with
    | error f' => exact ⟨htaken, fun h' => .inl (hdamaged ▸ h')⟩
    | ok cells =>
      simp only [hcells] at h ⊢
      obtain ⟨hrun, hdamages⟩ := run_of_error _ text command h
      refine ⟨hrun.trans htaken, fun h' => ?_⟩
      rcases hdamages h' with hbefore | hmakes
      · exact .inl (hdamaged ▸ hbefore)
      · exact .inr ⟨command, htext, hmakes⟩

/-- A text that was carried out is a command, and leaves the tables after it, in a transaction if it
writes a row, with no failure to remember. A command that writes a row was free to. -/
theorem execute_of_ok {parameters : List Value} {rows : List Row}
    (h : (c.execute text parameters).2 = .ok rows) :
    ∃ command cells known d, Command.ofText text = .ok command ∧
      Cell.ofValues 1 parameters = .ok cells ∧
      c.working.run known command cells = .ok (d, rows) ∧
      (c.execute text parameters).1.Rests ((c.opened command.verb).keep d) ∧
      (c.execute text parameters).1.lastFailure = none ∧
      (command.verb = .upsert → c.isDamaged = false ∧ c.barrier = none) := by
  have hread := rests_prepare c text
  rw [execute_eq] at h ⊢
  cases hcommand : (c.prepare text).2 with
  | error f =>
    rw [hcommand] at h
    cases h
  | ok command =>
    obtain ⟨htext, -⟩ := command_of_prepare (Prod.ext rfl hcommand)
    obtain ⟨htables, hbarrier, hdamage⟩ := opened_eq (c.prepare text).1 command.verb
    have hbound := rests_bind ((c.prepare text).1.opened command.verb) parameters
    simp only [hcommand] at h ⊢
    cases hcells : (((c.prepare text).1.opened command.verb).bind parameters).2 with
    | error f =>
      rw [hcells] at h
      cases h
    | ok cells =>
      simp only [hcells] at h ⊢
      obtain ⟨known, d, hrun, hrests, hlast, hfree⟩ := run_of_ok _ text command h
      rw [hbound.working, htables.working, hread.working] at hrun
      refine ⟨command, cells, known, d, htext, ofValues_of_bind _ hcells, hrun,
        hrests.trans ((hbound.trans (hread.opened command.verb)).keep d), hlast, fun hverb => ?_⟩
      obtain ⟨hsound, hopen⟩ := hfree hverb
      exact ⟨(hbound.isDamaged.trans (hdamage.trans hread.isDamaged)).symm.trans hsound,
        (hbound.barrier.trans (hbarrier.trans hread.barrier)).symm.trans hopen⟩

/-- Making a table that cannot be read back is refused and damages an open transaction. -/
theorem damaged_of_execute {text : String} {n : TableName}
    (htext : Command.ofText text = .ok ⟨.create, n⟩) {s : Schema}
    (hcreatable : Database.creatable n = .ok s) (hunreadable : Database.isUnreadable n.table = true)
    {c : Connection} (hbarrier : c.barrier = none) (hopen : c.inTransaction = true) :
    (c.execute text []).1.isDamaged = true ∧ ∃ f, (c.execute text []).2 = .error (.storage f) := by
  have hcheck (known : List String) : c.working.check known ⟨.create, n⟩ = .ok () := by
    rw [Database.check, hcreatable]
    rfl
  obtain ⟨hread, hcommand⟩ := prepare_of_allowed htext hcheck
  have hexecute : c.execute text [] = (c.prepare text).1.run text ⟨.create, n⟩ [] := by
    rw [execute_eq, hcommand]
    rfl
  generalize (c.prepare text).1 = e at hread hexecute
  have hsettled := (alike_settled e text ⟨.create, n⟩).trans hread
  have hmaking := (alike_making (e.settled text ⟨.create, n⟩) text ⟨.create, n⟩).trans hsettled
  have hrun (d : Database) (known : List String) :
      d.run known ⟨.create, n⟩ [] = .error (.malformedSchema n.table) := by
    simp [Database.run, Database.create, hcreatable, hunreadable, Bind.bind, Except.bind,
      Except.map]
  rw [hexecute, run_eq]
  simp only [hrun]
  generalize e.settled text ⟨.create, n⟩ = e' at hsettled hmaking
  split
  · next f hobstacle =>
    refine ⟨?_, f, rfl⟩
    -- Only the damage of the transaction can stand in the way.
    by_contra hsound
    have hfree : e'.isDamaged = false := Bool.eq_false_iff.mpr hsound
    rw [obstacle?, hfree, hsettled.barrier.trans hbarrier] at hobstacle
    simp at hobstacle
  · refine ⟨?_, _, rfl⟩
    have hdamaged : (e'.making text ⟨.create, n⟩).inTransaction = true := by
      rw [inTransaction, hmaking.pending]
      exact hopen
    exact hdamaged

/-- Values with the same cell do the same in the first place for a parameter. -/
theorem execute_congr {v w : Value} (h : Cell.ofValue 1 v = Cell.ofValue 1 w) (vs : List Value) :
    c.execute text (v :: vs) = c.execute text (w :: vs) := by
  have hbind (e : Connection) : e.bind (v :: vs) = e.bind (w :: vs) := by simp only [bind, h]
  simp only [execute, hbind]

/-- What is kept after a command is what is worked on; it is committed at once outside of a
transaction. -/
theorem keep_eq (d : Database) : (c.keep d).working = d ∧
    ((c.keep d).committed = c.committed ∨ (c.keep d).committed = d) ∧
    (c.keep d).barrier = c.barrier ∧ (c.keep d).isDamaged = c.isDamaged := by
  unfold keep
  cases c.pending with
  | some e => exact ⟨rfl, .inl rfl, rfl, rfl⟩
  | none => exact ⟨rfl, .inr rfl, rfl, rfl⟩

/-- A row is written in a transaction. -/
theorem committed_keep_opened_upsert (d : Database) :
    ((c.opened .upsert).keep d).committed = c.committed := by
  unfold opened begin keep
  cases hpending : c.pending <;> simp [hpending]

/-- Keeping the tables that are worked on changes none of them. -/
theorem sameTables_keep_working : (c.keep c.working).SameTables c := by
  obtain ⟨hworking, -⟩ := keep_eq c c.working
  refine ⟨?_, hworking⟩
  unfold keep working
  cases c.pending <;> rfl

/-- A transaction that is not damaged can be committed. -/
theorem commit_of_not_damaged (h : c.isDamaged = false) : c.commit.2 = .ok () := by
  unfold commit
  rw [h]
  cases c.pending <;> rfl

/-- A commit that is done makes permanent what was worked on. -/
theorem commit_of_ok (h : c.commit.2 = .ok ()) :
    c.commit.1.committed = c.working ∧ c.commit.1.working = c.working ∧
      c.commit.1.isDamaged = c.isDamaged := by
  unfold commit at h ⊢
  cases hpending : c.pending with
  | none =>
    have hworking : c.working = c.committed := by rw [working, hpending, Option.getD_none]
    exact ⟨hworking.symm, rfl, rfl⟩
  | some d =>
    have hworking : c.working = d := by rw [working, hpending, Option.getD_some]
    simp only [hpending] at h ⊢
    split
    · next hdamaged =>
      rw [if_pos hdamaged] at h
      cases h
    · exact ⟨hworking.symm, hworking.symm, rfl⟩

/-- A commit is refused in a damaged transaction only, and drops what was worked on. -/
theorem commit_of_error {f : BatchFrontier.Fault} (h : c.commit.2 = .error f) :
    c.isDamaged = true ∧ c.commit.1.committed = c.committed ∧
      c.commit.1.working = c.committed ∧ c.commit.1.isDamaged = false := by
  unfold commit at h ⊢
  cases hpending : c.pending with
  | none =>
    rw [hpending] at h
    cases h
  | some d =>
    simp only [hpending] at h ⊢
    split
    · next hdamaged => simp [hdamaged, refuse, rollback, hpending, working]
    · next hsound =>
      rw [if_neg hsound] at h
      cases h

/-- A connection that works on something else than what is committed has a transaction open. -/
theorem inTransaction_of_working_ne (h : c.working ≠ c.committed) : c.inTransaction = true := by
  unfold inTransaction
  cases hpending : c.pending with
  | some d => rfl
  | none => exact absurd (by rw [working, hpending, Option.getD_none]) h

/-- A damaged transaction is not committed. -/
theorem commit_of_isDamaged (hopen : c.inTransaction = true) (hdamaged : c.isDamaged = true) :
    c.commit.2 = .error (.storage .malformed) := by
  obtain ⟨d, hpending⟩ := Option.isSome_iff_exists.mp hopen
  simp only [commit, hpending, hdamaged, if_true, refuse]

/-- A rollback drops what was worked on. -/
theorem rollback_eq : c.rollback.committed = c.committed ∧ c.rollback.working = c.committed ∧
    (c.rollback.isDamaged = true → c.isDamaged = true) := by
  unfold rollback
  cases hpending : c.pending with
  | none =>
    have hworking : c.working = c.committed := by rw [working, hpending, Option.getD_none]
    exact ⟨rfl, hworking, id⟩
  | some d => exact ⟨rfl, rfl, fun h => absurd h Bool.false_ne_true⟩

end Connection

end BatchFrontier.Store
