import BatchFrontier.Proofs.SettingSources

/-!
# The check of settings

The commands that ask a node check their settings before all else: both contracts have to be named
and both ids have to be positive. The first condition that does not hold is named, and the run ends
before the node is opened or a file is read. The command that records a range checks nothing. There
is one exception: two dashes alone, joined to the name of an option, give an id that is an empty
list. The check compares it with zero all the same, and the fault of that ends the run.
-/

namespace BatchFrontier

/-- That a value is a positive integer. -/
def Value.IsPositive (v : Value) : Prop := ∃ n : Int, v = .integer n ∧ 0 < n

/-- A positive integer is not found to be too small. -/
theorem Value.IsPositive.isNonpositive {v : Value} (h : v.IsPositive) :
    v.isNonpositive = .ok false := by
  obtain ⟨n, rfl, hn⟩ := h
  have hn' : ¬ n ≤ 0 := by omega
  simp [Value.isNonpositive, integer?, hn']

/-- An empty list is no positive integer. -/
theorem Value.not_isPositive_of_list {v : Value} (h : v = .list []) : ¬ v.IsPositive := by
  rintro ⟨n, hn, -⟩
  cases hn.symm.trans h

namespace Settings

/-- That both contracts are named and both ids are positive. -/
structure IsValid (s : Settings) : Prop where
  manager : s.manager.isUnset = false
  legacy : s.legacy.isUnset = false
  l1Chain : s.l1Chain.IsPositive
  rollup : s.rollup.IsPositive

/-- That a condition on settings is violated and those before it are not, with the text that says
so. -/
inductive FirstViolates (s : Settings) : Text → Prop
  | manager (h : s.manager.isUnset = true) :
    FirstViolates s "rollup manager address is not set (ROLLUP_MANAGER_ADDRESS or --manager)"
  | legacy (hmanager : s.manager.isUnset = false) (h : s.legacy.isUnset = true) :
    FirstViolates s "legacy rollup address is not set (LEGACY_ROLLUP_ADDRESS or --legacy)"
  | l1Chain (hmanager : s.manager.isUnset = false) (hlegacy : s.legacy.isUnset = false)
    (h : ¬ s.l1Chain.IsPositive) :
    FirstViolates s ("L1 chain id must be > 0, got " ++ s.l1Chain.shown)
  | rollup (hmanager : s.manager.isUnset = false) (hlegacy : s.legacy.isUnset = false)
    (hchain : s.l1Chain.IsPositive) (h : ¬ s.rollup.IsPositive) :
    FirstViolates s ("rollup id must be > 0, got " ++ s.rollup.shown)

/-- That the check of settings comes to an id that is an empty list. -/
inductive Baffles (s : Settings) : Prop
  | l1Chain (hmanager : s.manager.isUnset = false) (hlegacy : s.legacy.isUnset = false)
    (h : s.l1Chain = .list [])
  | rollup (hmanager : s.manager.isUnset = false) (hlegacy : s.legacy.isUnset = false)
    (hchain : s.l1Chain.IsPositive) (h : s.rollup = .list [])

variable {s : Settings} {message : Text}

/-- Settings are valid, or there is a first condition that they violate. -/
theorem isValid_or_firstViolates (s : Settings) :
    s.IsValid ∨ ∃ message, s.FirstViolates message := by
  cases hmanager : s.manager.isUnset with
  | true => exact .inr ⟨_, .manager hmanager⟩
  | false =>
    cases hlegacy : s.legacy.isUnset with
    | true => exact .inr ⟨_, .legacy hmanager hlegacy⟩
    | false =>
      by_cases hchain : s.l1Chain.IsPositive
      · by_cases hrollup : s.rollup.IsPositive
        · exact .inl ⟨hmanager, hlegacy, hchain, hrollup⟩
        · exact .inr ⟨_, .rollup hmanager hlegacy hchain hrollup⟩
      · exact .inr ⟨_, .l1Chain hmanager hlegacy hchain⟩

/-- Settings that baffle are not valid. -/
theorem Baffles.not_isValid (h : s.Baffles) : ¬ s.IsValid := by
  intro hvalid
  cases h with
  | l1Chain _ _ h => exact Value.not_isPositive_of_list h hvalid.l1Chain
  | rollup _ _ _ h => exact Value.not_isPositive_of_list h hvalid.rollup

/-! ## What the check finds -/

/-- Valid settings pass. -/
theorem IsValid.validate (h : s.IsValid) : s.validate = .ok () := by
  rw [validate_eq, h.manager, h.legacy, h.l1Chain.isNonpositive, h.rollup.isNonpositive]
  rfl

/-- Settings that baffle end with a fault that nobody expects. -/
theorem Baffles.validate (h : s.Baffles) : s.validate = .error (.mistyped "list") := by
  rw [validate_eq]
  cases h with
  | l1Chain hmanager hlegacy h =>
    rw [hmanager, hlegacy, h]
    rfl
  | rollup hmanager hlegacy hchain h =>
    rw [hmanager, hlegacy, hchain.isNonpositive, h]
    rfl

/-- An id that is not positive is too small, or it is an empty list. -/
theorem isNonpositive_of_gives {v : Value} (hgives : CommandLine.Take.integer.Gives v)
    (h : ¬ v.IsPositive) (hlist : v ≠ .list []) : v.isNonpositive = .ok true := by
  rcases hgives with ⟨n, rfl, -⟩ | hv
  · have hn : n ≤ 0 := by
      by_contra hpositive
      exact h ⟨n, rfl, by omega⟩
    simp [Value.isNonpositive, Value.integer?, hn]
  · exact absurd hv hlist

/-- The first condition that settings violate is named, unless they baffle. -/
theorem FirstViolates.validate (h : s.FirstViolates message)
    (hchain : CommandLine.Take.integer.Gives s.l1Chain)
    (hrollup : CommandLine.Take.integer.Gives s.rollup) (hbaffles : ¬ s.Baffles) :
    ∃ f, s.validate = .error f ∧ f.message = message ∧ f.isExpected = true := by
  rw [validate_eq]
  cases h with
  | manager h =>
    rw [h]
    exact ⟨.managerUnset, rfl, rfl, rfl⟩
  | legacy hmanager h =>
    rw [hmanager, h]
    exact ⟨.legacyUnset, rfl, rfl, rfl⟩
  | l1Chain hmanager hlegacy h =>
    have hlist : s.l1Chain ≠ .list [] := fun hlist => hbaffles (.l1Chain hmanager hlegacy hlist)
    rw [hmanager, hlegacy, isNonpositive_of_gives hchain h hlist,
      Fault.showing_of_isWritable _ hchain.isWritable]
    exact ⟨.settingChain s.l1Chain, rfl, rfl, rfl⟩
  | rollup hmanager hlegacy hpositive h =>
    have hlist : s.rollup ≠ .list [] :=
      fun hlist => hbaffles (.rollup hmanager hlegacy hpositive hlist)
    rw [hmanager, hlegacy, hpositive.isNonpositive, isNonpositive_of_gives hrollup h hlist,
      Fault.showing_of_isWritable _ hrollup.isWritable]
    exact ⟨.settingRollup s.rollup, rfl, rfl, rfl⟩

end Settings

namespace CommandLine

/-- The ids of a run are integers or empty lists. -/
theorem Asks.gives_ids {env : Environment} {arguments : List Text} {i : Invocation}
    (h : Asks env arguments i) :
    Take.integer.Gives i.settings.l1Chain ∧ Take.integer.Gives i.settings.rollup := by
  obtain ⟨d, s, hsettings, hinvocation⟩ := h
  obtain ⟨p, name, rest, command, extras, hparse, -, -, -, rfl⟩ :=
    ofArguments_eq_ok_iff.mp hinvocation
  have hfrom := (settingsFrom_startSettings hsettings).1
  have hvariable (name : String) :
      Take.integer.Gives (chosen none (env.integer? name) (.integer 1)) := by
    unfold Environment.integer?
    cases env.get? name with
    | none => exact Take.gives_one
    | some t =>
      cases hread : Text.readInteger t.chars with
      | ok n => simpa [hread, chosen, Except.toOption] using Take.gives_of_readInteger hread
      | error f => simpa [hread, chosen, Except.toOption] using Take.gives_one
  have hgiven {key : String} {v : Value} (hv : Take.integer.Gives v)
      (hkey : ∀ k ∈ Invocation.grammar.keys, k.1 = key → k.2 = .integer) :
      Take.integer.Gives ((p.get? key).getD v) := by
    cases hset : p.get? key with
    | none => exact hv
    | some v' => exact Grammar.gives_of_get? hparse hkey hset
  have hchain : Take.integer.Gives s.l1Chain := hfrom.l1Chain ▸ hvariable "L1_CHAIN_ID"
  have hrollup : Take.integer.Gives s.rollup := hfrom.rollup ▸ hvariable "ROLLUP_ID"
  exact ⟨hgiven hchain (by decide), hgiven hrollup (by decide)⟩

/-! ## Runs -/

/-- What is said before settings are checked. -/
def notice (s : Settings) : List Text :=
  if isPlaceholder s.rpcUrl.shown then [.ofString placeholderLine] else []

/-- The lines of what is said. -/
def noticeLines (s : Settings) : Text := Text.join ((notice s).map (· ++ "\n"))

/-- The document of a command that checks its settings. -/
def Invocation.guarded? (i : Invocation) (w : Surroundings) : Option (Traced Value) :=
  match i.command with
  | .state batch => some (stateDocument w i.settings batch)
  | .buildVerify inputs last new beneficiary =>
    some (callDocument w i.settings inputs last new beneficiary)
  | .recordSequence _ _ _ => none

/-- That a run checks its settings as it should: with valid settings the command is carried out,
otherwise the first condition that is violated is named and nothing else happens. A command that
checks nothing is carried out whatever the settings are, but for the place of the ledger. -/
structure ChecksSettings (w : Surroundings) (arguments : List Text) (i : Invocation) : Prop where
  goesOn : ∀ d, i.guarded? w = some d → i.settings.IsValid → run w arguments = i.outcome w ∧
    i.work w = ⟨⟨(notice i.settings).map .status ++ d.events, d.result⟩, w.files⟩
  stops : ∀ d, i.guarded? w = some d → ¬ i.settings.IsValid →
    ∃ message, i.settings.FirstViolates message ∧
      run w arguments = ⟨.failure, "", noticeLines i.settings ++ ("❌ " ++ message ++ "\n"),
        (notice i.settings).map .status, w.files⟩
  exempt : i.guarded? w = none → ∀ s : Settings, s.sequenceDb = i.settings.sequenceDb →
    run w arguments = ({ i with settings := s } : Invocation).outcome w

theorem precheck_events (s : Settings) : (precheck s).events = (notice s).map .status := by
  unfold precheck notice
  cases isPlaceholder s.rpcUrl.shown <;> rfl

theorem errorLines_notice (stamp : String) (isDebug : Bool) (s : Settings) :
    errorLines stamp isDebug ((notice s).map .status) = noticeLines s := by
  unfold noticeLines notice
  cases isPlaceholder s.rpcUrl.shown <;> rfl

variable {w : Surroundings} {arguments : List Text} {i : Invocation} {d : Traced Value}

/-- A command that checks its settings does so first. -/
theorem Invocation.work_of_guarded (h : i.guarded? w = some d) :
    i.work w = ⟨precheck i.settings >>= fun _ => d, w.files⟩ := by
  obtain ⟨settings, isPretty, isDebug, command⟩ := i
  cases command with
  | state batch =>
    cases h
    rfl
  | buildVerify inputs last new beneficiary =>
    cases h
    rfl
  | recordSequence first last db => cases h

/-- A command whose settings are refused ends with the fault of that. -/
theorem run_of_refused (hasks : Asks w.environment arguments i) (hguarded : i.guarded? w = some d)
    {f : Fault} (h : i.settings.validate = .error f) : run w arguments =
      if f.isExpected then ⟨.failure, "", noticeLines i.settings ++ failureLine f,
        (notice i.settings).map .status, w.files⟩
      else ⟨.escape f, "", noticeLines i.settings, (notice i.settings).map .status, w.files⟩ := by
  have hwork : i.work w = ⟨⟨(notice i.settings).map .status, .error f⟩, w.files⟩ := by
    rw [i.work_of_guarded hguarded, Traced.bind_of_error _ ((precheck_result _).trans h),
      precheck_events]
  have hprinted : i.printed w = .error f := by
    rw [Invocation.printed, hwork]
    rfl
  rw [run_of_asks hasks, Invocation.outcome_of_error hprinted, hwork, errorLines_notice]

/-- Where settings do not baffle, a run checks them as it should. -/
theorem checksSettings_of_not_baffles (hasks : Asks w.environment arguments i)
    (h : ¬ ((i.guarded? w).isSome = true ∧ i.settings.Baffles)) : ChecksSettings w arguments i where
  goesOn d hguarded hvalid := by
    refine ⟨run_of_asks hasks, ?_⟩
    rw [i.work_of_guarded hguarded,
      Traced.bind_of_ok _ ((precheck_result _).trans hvalid.validate), precheck_events]
  stops d hguarded hvalid := by
    obtain ⟨message, hviolates⟩ := i.settings.isValid_or_firstViolates.resolve_left hvalid
    have hbaffles : ¬ i.settings.Baffles := fun hbaffles => h ⟨by rw [hguarded]; rfl, hbaffles⟩
    obtain ⟨f, hf, rfl, hexpected⟩ :=
      hviolates.validate hasks.gives_ids.1 hasks.gives_ids.2 hbaffles
    refine ⟨f.message, hviolates, ?_⟩
    rw [run_of_refused hasks hguarded hf, if_pos hexpected]
    rfl
  exempt hguarded s hs := by
    rw [run_of_asks hasks]
    obtain ⟨settings, isPretty, isDebug, command⟩ := i
    cases command with
    | state batch => cases hguarded
    | buildVerify inputs last new beneficiary => cases hguarded
    | recordSequence first last db =>
      have hpath : ledgerPath settings db = ledgerPath s db := by
        unfold ledgerPath
        rw [hs]
      have hwork : Invocation.work ⟨settings, isPretty, isDebug, .recordSequence first last db⟩ w =
          Invocation.work ⟨s, isPretty, isDebug, .recordSequence first last db⟩ w := by
        simp only [Invocation.work, hpath]
      simp only [Invocation.outcome, Invocation.layout, hwork]

/-- Where settings baffle, a run ends with a fault that nobody expects. -/
theorem run_of_baffles (hasks : Asks w.environment arguments i)
    (hguarded : (i.guarded? w).isSome = true) (hbaffles : i.settings.Baffles) : run w arguments =
      ⟨.escape (.mistyped "list"), "", noticeLines i.settings, (notice i.settings).map .status,
        w.files⟩ := by
  obtain ⟨d, hd⟩ := Option.isSome_iff_exists.mp hguarded
  exact run_of_refused hasks hd hbaffles.validate

/-- Where settings baffle, a run does not check them as it should. -/
theorem not_checksSettings_of_baffles (hasks : Asks w.environment arguments i)
    (hguarded : (i.guarded? w).isSome = true) (hbaffles : i.settings.Baffles) :
    ¬ ChecksSettings w arguments i := by
  intro hchecks
  obtain ⟨d, hd⟩ := Option.isSome_iff_exists.mp hguarded
  obtain ⟨message, -, hrun⟩ := hchecks.stops d hd hbaffles.not_isValid
  have hending := congrArg Outcome.ending
    ((run_of_baffles hasks hguarded hbaffles).symm.trans hrun)
  cases hending

/-- A run whose environment can be read and whose arguments ask for a command takes each setting
from its flag, its variable or what is built in. It checks them as it should before all else, except
for settings that baffle: they end it with a fault that nobody expects. -/
theorem checksSettings_iff (henvironment : ¬ Misreads w.environment)
    (harguments : Accepted arguments) : ∃ i, Asks w.environment arguments i ∧
      i.IsSourced w.environment arguments ∧
      (ChecksSettings w arguments i ↔
        ¬ ((i.guarded? w).isSome = true ∧ i.settings.Baffles)) ∧
      ((i.guarded? w).isSome = true ∧ i.settings.Baffles → run w arguments =
        ⟨.escape (.mistyped "list"), "", noticeLines i.settings, (notice i.settings).map .status,
          w.files⟩) := by
  cases hsettings : startSettings w.environment with
  | error f => exact absurd ((startSettings_eq_error_iff _).mp ⟨f, hsettings⟩) henvironment
  | ok start =>
    obtain ⟨i, hi⟩ := harguments.exists_invocation start.1 start.2
    have hasks : Asks w.environment arguments i := ⟨start.1, start.2, hsettings, hi⟩
    refine ⟨i, hasks, hasks.isSourced, ⟨?_, checksSettings_of_not_baffles hasks⟩, ?_⟩
    · rintro hchecks ⟨hguarded, hbaffles⟩
      exact not_checksSettings_of_baffles hasks hguarded hbaffles hchecks
    · rintro ⟨hguarded, hbaffles⟩
      exact run_of_baffles hasks hguarded hbaffles

/-- Surroundings with variables for some of the settings. -/
def mixed : Surroundings :=
  alone [("RPC_URL", "http://localhost:8545"), ("L1_CHAIN_ID", " 5 "),
    ("ROLLUP_MANAGER_ADDRESS", "manager")] []

/-- Arguments with flags for some of the settings, one of them twice. -/
def mixedArguments : List Text :=
  ["--rollup-id", "7", "--manager=other", "--rollup-id=0", "--legacy", "legacy", "state"]

/-- Flags and variables are mixed: the last of two flags counts, and a flag counts before a
variable. The id of the rollup is zero, and the run says so. -/
theorem checksSettings_mixed : ¬ Misreads mixed.environment ∧ Accepted mixedArguments ∧
    ∃ i, Asks mixed.environment mixedArguments i ∧ ChecksSettings mixed mixedArguments i ∧
      i.settings.manager.shown = "other" ∧ i.settings.l1Chain.shown = "5" ∧
      i.settings.rollup.shown = "0" := by
  have hsettings : (asked? mixed.environment mixedArguments).map (fun i =>
      (i.settings.manager.shown, i.settings.l1Chain.shown, i.settings.rollup.shown,
        Report.isNumber i.settings.l1Chain, Report.isNumber i.settings.rollup)) =
      some (.ofString "other", .ofString "5", .ofString "0", true, true) := by decide +kernel
  obtain ⟨i, hi, hfound⟩ := Option.map_eq_some_iff.mp hsettings
  simp only [Prod.mk.injEq] at hfound
  obtain ⟨hmanager, hchain, hrollup, hnumbers⟩ := hfound
  have hasks := asks_of_asked? hi
  obtain ⟨henvironment, harguments⟩ := hasks.isAccepted
  obtain ⟨j, hj, -, hchecks, -⟩ := checksSettings_iff henvironment harguments
  obtain rfl := hasks.eq hj
  refine ⟨henvironment, harguments, j, hj, hchecks.mpr ?_, hmanager, hchain, hrollup⟩
  rintro ⟨-, hbaffles⟩
  cases hbaffles with
  | l1Chain _ _ h =>
    rw [h] at hnumbers
    cases hnumbers.1
  | rollup _ _ _ h =>
    rw [h] at hnumbers
    cases hnumbers.2

/-- Surroundings with variables for both contracts. -/
def named : Surroundings :=
  alone [("RPC_URL", "http://localhost:8545"), ("ROLLUP_MANAGER_ADDRESS", "manager"),
    ("LEGACY_ROLLUP_ADDRESS", "legacy")] []

/-- Two dashes alone that are joined to an option give an id that violates a condition, but the run
does not name it. -/
theorem not_checksSettings_dashes : ¬ Misreads named.environment ∧
    Accepted ["--l1-chain-id=--", "state"] ∧
    ∃ i, Asks named.environment ["--l1-chain-id=--", "state"] i ∧
      i.settings.FirstViolates "L1 chain id must be > 0, got []" ∧
      (run named ["--l1-chain-id=--", "state"]).ending = .escape (.mistyped "list") ∧
      ¬ ChecksSettings named ["--l1-chain-id=--", "state"] i := by
  have hsettings : (asked? named.environment ["--l1-chain-id=--", "state"]).map
      (fun i => (i.settings.manager.isUnset, i.settings.legacy.isUnset,
        Report.isNumber i.settings.l1Chain, (i.guarded? named).isSome)) =
      some (false, false, false, true) := by decide +kernel
  obtain ⟨i, hi, hfound⟩ := Option.map_eq_some_iff.mp hsettings
  simp only [Prod.mk.injEq] at hfound
  obtain ⟨hmanager, hlegacy, hnumber, hguarded⟩ := hfound
  have hasks := asks_of_asked? hi
  have hlist : i.settings.l1Chain = .list [] := by
    rcases hasks.gives_ids.1 with ⟨n, hn, -⟩ | hlist
    · rw [hn] at hnumber
      cases hnumber
    · exact hlist
  have hbaffles : i.settings.Baffles := .l1Chain hmanager hlegacy hlist
  refine ⟨hasks.isAccepted.1, hasks.isAccepted.2, i, hasks, ?_,
    congrArg Outcome.ending (run_of_baffles hasks hguarded hbaffles),
    not_checksSettings_of_baffles hasks hguarded hbaffles⟩
  have hviolates : i.settings.FirstViolates ("L1 chain id must be > 0, got " ++ _) :=
    .l1Chain hmanager hlegacy (Value.not_isPositive_of_list hlist)
  rw [hlist] at hviolates
  exact hviolates

end CommandLine

end BatchFrontier
