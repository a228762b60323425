import BatchFrontier.Proofs.ArgumentKinds
import BatchFrontier.Proofs.UnreportedFailures

/-!
# What every run leaves behind

A run that is not asked for a command does nothing. One that is asked for a command leaves the files
and the events of its work, prints a document if it succeeds, and prints nothing if it does not.
-/

namespace BatchFrontier.CommandLine

/-! ## What is asked for -/

/-- An integer of the environment is one that could be an argument, as its default is. -/
theorem gives_of_integer {env : Environment} {name : String} {default n : Int}
    (hdefault : Take.integer.Gives (.integer default)) (h : env.integer name default = .ok n) :
    Take.integer.Gives (.integer n) := by
  unfold Environment.integer at h
  split at h
  · exact Take.gives_of_toInteger h
  · obtain rfl := Except.ok.inj h
    exact hdefault

/-- The id of the rollup that an environment sets could be an argument. -/
theorem gives_of_override {env : Environment} {d d' : Defaults}
    (hdefault : Take.integer.Gives (.integer d.rollup)) (h : d.override env = .ok d') :
    Take.integer.Gives (.integer d'.rollup) := by
  unfold Defaults.override at h
  simp only [bind_eq_ok_iff] at h
  obtain ⟨chain, -, rollup, hrollup, hd⟩ := h
  cases hd
  exact gives_of_integer hdefault hrollup

/-- The settings of a run start with an id of the rollup that could be an argument. -/
theorem gives_of_startSettings {env : Environment} {d : Defaults} {s : Settings}
    (h : startSettings env = .ok (d, s)) : Take.integer.Gives s.rollup := by
  unfold startSettings Defaults.ofEnvironment Settings.ofEnvironment at h
  simp only [bind_eq_ok_iff] at h
  obtain ⟨d', hd', s', ⟨d'', hd'', hs'⟩, hpair⟩ := h
  cases hpair
  cases hs'
  exact gives_of_override (gives_of_override Take.gives_one hd') hd''

/-- What a run is asked for fits: the id of its rollup and the arguments of its command are of the
kinds that are taken there. -/
theorem Asks.fits {env : Environment} {arguments : List Text} {i : Invocation}
    (h : Asks env arguments i) : Take.integer.Gives i.settings.rollup ∧ i.command.Fits := by
  obtain ⟨d, s, hsettings, hinvocation⟩ := h
  exact Invocation.fits_ofArguments (gives_of_startSettings hsettings) hinvocation

/-- A run that is not asked for a command does nothing and does not succeed. -/
theorem run_of_not_asks {w : Surroundings} {arguments : List Text}
    (h : ∀ i, ¬ Asks w.environment arguments i) :
    (run w arguments).ending ≠ .success ∧ (run w arguments).output = "" ∧
      (run w arguments).events = [] ∧ (run w arguments).files = w.files := by
  rw [run_eq]
  split
  · exact ⟨fun hending => (by cases hending), rfl, rfl, rfl⟩
  · next d s hsettings =>
    split
    · exact ⟨fun hending => (by cases hending), rfl, rfl, rfl⟩
    · exact ⟨fun hending => (by cases hending), rfl, rfl, rfl⟩
    · next i hi => exact absurd ⟨d, s, hsettings, hi⟩ (h i)

/-! ## How a command ends -/

/-- Whether a run succeeded. -/
def Ending.isSuccess : Ending → Bool
  | .success => true
  | _ => false

namespace Invocation

/-- A command leaves the files as its work does, however it ends. -/
theorem outcome_files (i : Invocation) (w : Surroundings) :
    (i.outcome w).files = (i.work w).files := by
  cases hprinted : i.printed w with
  | ok text => rw [outcome_of_ok hprinted]
  | error f =>
    rw [outcome_of_error hprinted]
    split <;> rfl

/-- A command leaves the events of its work, however it ends. -/
theorem outcome_events (i : Invocation) (w : Surroundings) :
    (i.outcome w).events = (i.work w).document.events := by
  cases hprinted : i.printed w with
  | ok text => rw [outcome_of_ok hprinted]
  | error f =>
    rw [outcome_of_error hprinted]
    split <;> rfl

/-- A command whose work fails does not succeed, and has no output. -/
theorem outcome_of_refused {i : Invocation} {w : Surroundings} {f : Fault}
    (h : i.printed w = .error f) :
    (i.outcome w).ending ≠ .success ∧ (i.outcome w).output = "" := by
  rw [outcome_of_error h]
  split
  · exact ⟨fun hending => (by cases hending), rfl⟩
  · exact ⟨fun hending => (by cases hending), rfl⟩

end Invocation

/-- A run that does not succeed has no output. -/
theorem output_of_not_success {w : Surroundings} {arguments : List Text}
    (h : (run w arguments).ending ≠ .success) : (run w arguments).output = "" := by
  by_cases hasks : ∃ i, Asks w.environment arguments i
  · obtain ⟨i, hi⟩ := hasks
    rw [run_of_asks hi] at h ⊢
    cases hprinted : i.printed w with
    | ok text =>
      rw [Invocation.outcome_of_ok hprinted] at h
      exact absurd rfl h
    | error f => exact (Invocation.outcome_of_refused hprinted).2
  · exact (run_of_not_asks fun i hi => hasks ⟨i, hi⟩).2.1

end BatchFrontier.CommandLine
