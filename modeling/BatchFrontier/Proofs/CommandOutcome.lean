import BatchFrontier.Store.Connection

/-!
# What commands leave on a connection

Much of a connection only decides how a refusal is worded. Two connections that hold the same
tables, remember the same texts and are equally free to write are alike, and the steps of a command
that only look something up lead from a connection to one that is alike. So a command that the
tables allow leaves just the tables after it.
-/

namespace BatchFrontier

section

variable {ε α β : Type} {r : Except ε α} {b : β} {e : ε}

/-- A mapped result is good if the result is. -/
theorem map_eq_ok_iff {f : α → β} : r.map f = .ok b ↔ ∃ a, r = .ok a ∧ f a = b := by
  cases r <;> simp [Except.map]

/-- A mapped result fails as the result does. -/
theorem map_eq_error_iff {f : α → β} : r.map f = .error e ↔ r = .error e := by
  cases r <;> simp [Except.map]

/-- A result that goes on is good if it is and what follows is. -/
theorem bind_eq_ok_iff {f : α → Except ε β} :
    (r >>= f) = .ok b ↔ ∃ a, r = .ok a ∧ f a = .ok b := by
  cases r <;> simp [bind, Except.bind]

/-- A result that goes on fails as it does or as what follows does. -/
theorem bind_eq_error_iff {f : α → Except ε β} :
    (r >>= f) = .error e ↔ r = .error e ∨ ∃ a, r = .ok a ∧ f a = .error e := by
  cases r <;> simp [bind, Except.bind]

end

namespace Store.Connection

/-- The connection before the parameters of a command are taken: in a transaction if the command
writes a row. -/
def opened (c : Connection) (verb : Verb) : Connection := if verb = .upsert then c.begin else c

/-- That two connections hold the same tables, remember the same texts and are equally free to
write. -/
structure Alike (c e : Connection) : Prop where
  committed : c.committed = e.committed
  pending : c.pending = e.pending
  barrier : c.barrier = e.barrier
  recent : c.recent = e.recent
  isDamaged : c.isDamaged = e.isDamaged

namespace Alike

variable {c e f : Connection}

theorem refl (c : Connection) : c.Alike c := ⟨rfl, rfl, rfl, rfl, rfl⟩

theorem trans (h : c.Alike e) (h' : e.Alike f) : c.Alike f :=
  ⟨h.committed.trans h'.committed, h.pending.trans h'.pending, h.barrier.trans h'.barrier,
    h.recent.trans h'.recent, h.isDamaged.trans h'.isDamaged⟩

theorem working (h : c.Alike e) : c.working = e.working := by
  rw [Connection.working, Connection.working, h.committed, h.pending]

theorem begin (h : c.Alike e) : c.begin.Alike e.begin := by
  unfold Connection.begin
  rw [h.pending]
  split
  · exact h
  · exact ⟨h.committed, by simp [h.committed], h.barrier, h.recent, h.isDamaged⟩

theorem keep (h : c.Alike e) (d : Database) : (c.keep d).Alike (e.keep d) := by
  unfold Connection.keep
  rw [h.pending]
  split
  · exact ⟨h.committed, rfl, h.barrier, h.recent, h.isDamaged⟩
  · exact ⟨rfl, rfl, h.barrier, h.recent, h.isDamaged⟩

theorem opened (h : c.Alike e) (verb : Verb) : (c.opened verb).Alike (e.opened verb) := by
  unfold Connection.opened
  split
  · exact h.begin
  · exact h

end Alike

theorem alike_meet (c : Connection) (command : Command) : (c.meet command).Alike c := by
  unfold meet
  split
  · exact ⟨rfl, rfl, rfl, rfl, rfl⟩
  · exact .refl c

theorem alike_understand (c : Connection) (text : String) (command : Command) :
    (c.understand text command).Alike c := ⟨rfl, rfl, rfl, rfl, rfl⟩

theorem alike_making (c : Connection) (text : String) (command : Command) :
    (c.making text command).Alike c := by
  unfold making
  split
  · exact .refl c
  · split
    · exact .refl c
    · exact ⟨rfl, rfl, rfl, rfl, rfl⟩

theorem alike_refuse {α : Type} (c : Connection) (f : Fault) : (c.refuse (α := α) f).1.Alike c :=
  ⟨rfl, rfl, rfl, rfl, rfl⟩

/-- Opening a transaction changes no table. -/
theorem working_opened (c : Connection) (verb : Verb) : (c.opened verb).working = c.working := by
  unfold opened begin working
  split
  · split
    · rfl
    · next h => simp [h]
  · rfl

/-- A text that is no command changes nothing. -/
theorem execute_of_not_command {c : Connection} {text : String} {f : Fault}
    (htext : Command.ofText text = .error f) (parameters : List Value) :
    (c.execute text parameters).1.Alike c ∧
      (c.execute text parameters).2 = .error (.storage f) := by
  have hprepare : c.prepare text = c.refuse f := by rw [prepare, htext]
  unfold execute
  rw [hprepare]
  exact ⟨alike_refuse c f, rfl⟩

/-- A new command that the tables do not allow changes nothing. -/
theorem execute_of_not_allowed {c : Connection} {text : String} {command : Command}
    (htext : Command.ofText text = .ok command) (hrecent : text ∉ c.recent)
    (hcheck : ∀ known, ∃ f, c.working.check known command = .error f) (parameters : List Value) :
    (c.execute text parameters).1.Alike c ∧
      ∃ f, (c.execute text parameters).2 = .error (.storage f) := by
  obtain ⟨f, hf⟩ := hcheck (c.meet command).known
  have hprepare : c.prepare text = (c.meet command).refuse f := by
    simp only [prepare, htext, if_neg hrecent, (alike_meet c command).working, hf]
  unfold execute
  rw [hprepare]
  exact ⟨(alike_refuse _ f).trans (alike_meet c command), f, rfl⟩

section

variable {c : Connection} {text : String} {command : Command}

/-- The text of a command that the tables allow is read and remembered. -/
theorem prepare_of_allowed (htext : Command.ofText text = .ok command)
    (hcheck : ∀ known, c.working.check known command = .ok ()) :
    (c.prepare text).1.Alike (c.remember text) ∧ (c.prepare text).2 = .ok command := by
  unfold prepare
  simp only [htext]
  split
  · exact ⟨.refl _, rfl⟩
  · simp only [(alike_meet c command).working, hcheck]
    refine ⟨?_, trivial⟩
    have hmeet := alike_meet c command
    exact ⟨hmeet.committed, hmeet.pending, hmeet.barrier,
      by simp [understand, remember, hmeet.recent], hmeet.isDamaged⟩

/-- Parameters with cells are taken. -/
theorem bind_of_cells {parameters : List Value} {cells : List Cell}
    (hcells : Cell.ofValues 1 parameters = .ok cells) :
    (c.bind parameters).1.Alike c ∧ (c.bind parameters).2 = .ok cells := by
  cases parameters with
  | nil => exact ⟨.refl c, hcells⟩
  | cons v vs =>
    rw [Cell.ofValues] at hcells
    cases hv : Cell.ofValue 1 v with
    | error f => simp [hv, Bind.bind, Except.bind] at hcells
    | ok cell =>
      simp only [hv, Bind.bind, Except.bind] at hcells
      simp only [bind, hv]
      refine ⟨⟨rfl, rfl, rfl, rfl, rfl⟩, ?_⟩
      cases hvs : Cell.ofValues 2 vs with
      | error f => simp [hvs] at hcells
      | ok cells' => simpa [hvs, Except.map, pure, Except.pure] using hcells

/-- A command that nothing stands in the way of leaves the tables after it. -/
theorem run_of_free (text : String) {cells : List Cell} {d : Database} {rows : List Row}
    (hbarrier : c.barrier = none) (hdamage : c.isDamaged = false)
    (hrun : ∀ known, c.working.run known command cells = .ok (d, rows)) :
    (c.run text command cells).1.Alike (c.keep d) ∧ (c.run text command cells).2 = .ok rows := by
  have halike : ((c.meet command).understand text command).Alike c :=
    (alike_understand _ text command).trans (alike_meet c command)
  have hfree : ((c.meet command).understand text command).obstacle? text = none := by
    unfold obstacle?
    rw [halike.isDamaged, halike.barrier, hdamage, hbarrier]
    split <;> rfl
  have hmaking := (alike_making _ text command).trans halike
  simp only [run, hdamage, Bool.false_and, Bool.false_eq_true, if_false, hfree, hmaking.working,
    hrun]
  exact ⟨hmaking.keep d, trivial⟩

/-- A command that the tables allow and nothing stands in the way of leaves the tables after it, in
a transaction if it writes a row. -/
theorem execute_of_allowed {parameters : List Value} {cells : List Cell} {d : Database}
    {rows : List Row} (htext : Command.ofText text = .ok command) (hbarrier : c.barrier = none)
    (hdamage : c.isDamaged = false) (hcheck : ∀ known, c.working.check known command = .ok ())
    (hcells : Cell.ofValues 1 parameters = .ok cells)
    (hrun : ∀ known, c.working.run known command cells = .ok (d, rows)) :
    (c.execute text parameters).1.Alike (((c.remember text).opened command.verb).keep d) ∧
      (c.execute text parameters).2 = .ok rows := by
  obtain ⟨hread, hcommand⟩ := prepare_of_allowed htext hcheck
  obtain ⟨hbind, hbound⟩ := bind_of_cells (c := (c.prepare text).1.opened command.verb) hcells
  have halike := hbind.trans (hread.opened command.verb)
  have hopen : ((c.remember text).opened command.verb).barrier = none ∧
      ((c.remember text).opened command.verb).isDamaged = false := by
    unfold opened begin
    split
    · split <;> exact ⟨hbarrier, hdamage⟩
    · exact ⟨hbarrier, hdamage⟩
  have hworking : (((c.prepare text).1.opened command.verb).bind parameters).1.working =
      c.working := by
    rw [halike.working, working_opened]
    rfl
  obtain ⟨hkept, hrows⟩ := run_of_free text (halike.barrier.trans hopen.1)
    (halike.isDamaged.trans hopen.2) (fun known => by rw [hworking]; exact hrun known)
  have hexecute : c.execute text parameters =
      (((c.prepare text).1.opened command.verb).bind parameters).1.run text command cells := by
    unfold execute
    rw [← Prod.eta (c.prepare text), hcommand]
    simp only
    rw [← opened, ← Prod.eta (((c.prepare text).1.opened command.verb).bind parameters), hbound]
  rw [hexecute]
  exact ⟨hkept.trans (halike.keep d), hrows⟩

end

/-- A text that was read is a command, and the tables are as they were. -/
theorem command_of_prepare {c e : Connection} {text : String} {command : Command}
    (h : c.prepare text = (e, .ok command)) :
    Command.ofText text = .ok command ∧ e.working = c.working := by
  unfold prepare at h
  split at h
  · exact absurd (congrArg Prod.snd h) (by simp [refuse])
  · next read hread =>
    split at h
    · obtain ⟨rfl, hcommand⟩ := Prod.mk.inj h
      exact ⟨hread.trans (congrArg Except.ok (Except.ok.inj hcommand)), rfl⟩
    · simp only at h
      split at h
      · exact absurd (congrArg Prod.snd h) (by simp [refuse])
      · obtain ⟨rfl, hcommand⟩ := Prod.mk.inj h
        exact ⟨hread.trans (congrArg Except.ok (Except.ok.inj hcommand)),
          (alike_meet c read).working⟩

end Store.Connection

end BatchFrontier
