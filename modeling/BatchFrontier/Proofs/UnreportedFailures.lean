import BatchFrontier.Proofs.CallEscapes
import BatchFrontier.Proofs.LedgerRefinement
import BatchFrontier.Proofs.RecordEscapes

/-!
# Failures that are not reported

A run that is asked for something well-formed succeeds, or names its failure and ends in order.
There are exceptions: a number in the environment that cannot be read ends every run, and what a
command examines may be of a kind that nobody expects. The exceptions are told here one by one;
without them no run ends in any other way.
-/

namespace BatchFrontier

/-! ## Settings -/

namespace Settings

/-- Fails with a fault on a condition. -/
def refuseIf (isBad : Bool) (f : Fault) : Except Fault Unit := if isBad then .error f else .ok ()

/-- What is examined of settings: whether the contracts are named, and whether the ids are numbers
and positive. -/
def examinations (s : Settings) : List Examination :=
  [⟨s.manager.isUnset = false, False⟩, ⟨s.legacy.isUnset = false, False⟩,
    ⟨s.l1Chain.isNonpositive = .ok false, Report.isNumber s.l1Chain = false⟩,
    ⟨s.rollup.isNonpositive = .ok false, Report.isNumber s.rollup = false⟩]

/-- A condition is examined, and that never escapes. -/
theorem refuseIf_consists {isBad : Bool} {f : Fault} (h : f.isExpected = true) :
    ConsistsOf (refuseIf isBad f) [⟨isBad = false, False⟩] := by
  cases isBad with
  | true => exact .single (by simp [refuseIf, h]) (by simp [refuseIf])
  | false => exact .single (by simp [refuseIf]) (by simp [refuseIf])

/-- An id is examined, and that escapes if it is no number. -/
theorem sign_consists (v : Value) {fault : Value → Fault} (h : (fault v).isExpected = true) :
    ConsistsOf (v.isNonpositive >>= fun isBad => refuseIf isBad (.showing fault v))
      [⟨v.isNonpositive = .ok false, Report.isNumber v = false⟩] := by
  have hrefuse (isBad : Bool) : ¬ Escapes (refuseIf isBad (.showing fault v)) := by
    rw [(refuseIf_consists (Fault.isExpected_showing h)).escapes_iff]
    simp [firstEscapes_cons_iff]
  refine .single ?_ ?_
  · rw [escapes_bind_iff, Value.isNonpositive_escapes_iff]
    exact or_iff_left fun ⟨isBad, _, hescapes⟩ => hrefuse isBad hescapes
  · cases v.isNonpositive with
    | error g => simp [bind, Except.bind]
    | ok isBad => cases isBad <;> simp [bind, Except.bind, refuseIf]

theorem validate_eq (s : Settings) : s.validate =
    refuseIf s.manager.isUnset .managerUnset >>= fun _ =>
    refuseIf s.legacy.isUnset .legacyUnset >>= fun _ =>
    (s.l1Chain.isNonpositive >>= fun isBad =>
      refuseIf isBad (.showing .settingChain s.l1Chain)) >>= fun _ =>
    s.rollup.isNonpositive >>= fun isBad => refuseIf isBad (.showing .settingRollup s.rollup) := by
  unfold validate
  cases s.manager.isUnset with
  | true => rfl
  | false =>
    cases s.legacy.isUnset with
    | true => rfl
    | false =>
      cases s.l1Chain.isNonpositive with
      | error f => rfl
      | ok isBad => cases isBad <;> rfl

/-- Settings are checked by their examinations. -/
theorem validate_consists (s : Settings) : ConsistsOf s.validate s.examinations := by
  rw [validate_eq]
  exact (refuseIf_consists rfl).append fun _ _ => (refuseIf_consists rfl).append fun _ _ =>
    (sign_consists _ rfl).append fun _ _ => sign_consists _ rfl

end Settings

namespace CommandLine

theorem precheck_result (s : Settings) : (precheck s).result = s.validate := by
  unfold precheck
  cases isPlaceholder s.rpcUrl.shown <;> rfl

/-! ## Commands -/

namespace Invocation

/-- What is examined to carry out a command. -/
def examinations (i : Invocation) (w : Surroundings) : List Examination :=
  match i.command with
  | .state batch => i.settings.examinations ++ stateExaminations w.node i.settings batch
  | .buildVerify inputs _ _ _ => i.settings.examinations ++ callExaminations w i.settings inputs
  | .recordSequence first last db =>
    recordings w.directories w.files (ledgerPath i.settings db) first last

/-- A command escapes as the first of its examinations does. -/
theorem work_escapes_iff (i : Invocation) {w : Surroundings} (hw : w.Ordinary) :
    Escapes (i.work w).document.result ↔ FirstEscapes (i.examinations w) := by
  obtain ⟨settings, isPretty, isDebug, command⟩ := i
  have hsettings := settings.validate_consists
  rw [← precheck_result] at hsettings
  cases command with
  | state batch =>
    have hwork :
        ((⟨settings, isPretty, isDebug, .state batch⟩ : Invocation).work w).document.result =
        (precheck settings).result >>= fun _ => (stateDocument w settings batch).result :=
      Traced.bind_result _ _
    rw [hwork]
    exact hsettings.bind fun _ _ => stateDocument_escapes_iff hw settings batch
  | buildVerify inputs last new beneficiary =>
    have hwork : ((⟨settings, isPretty, isDebug,
          .buildVerify inputs last new beneficiary⟩ : Invocation).work w).document.result =
        (precheck settings).result >>= fun _ =>
          (callDocument w settings inputs last new beneficiary).result := Traced.bind_result _ _
    rw [hwork]
    exact hsettings.bind fun _ _ => callDocument_escapes_iff hw settings inputs last new beneficiary
  | recordSequence first last db =>
    exact recordSequence_escapes_iff w.directories w.files (ledgerPath settings db) first last

/-- What a command ends with: its document as text, or a fault. -/
def printed (i : Invocation) (w : Surroundings) : Except Fault String :=
  (i.work w).document.result >>= Json.print i.layout

/-- That an outcome reports how a command ends: with its document on the output, or with the name of
its failure after all other lines on the error output. -/
inductive ReportedBy (i : Invocation) (w : Surroundings) (o : Outcome) : Prop
  | success {text : String} (hprinted : i.printed w = .ok text) (hending : o.ending = .success)
    (houtput : o.output = text ++ "\n")
  | failure {f : Fault} (hprinted : i.printed w = .error f) (hending : o.ending = .failure)
    (houtput : o.output = "")
    (herror : o.errorOutput =
      errorLines w.stamp i.isDebug (i.work w).document.events ++ failureLine f)

/-- A command that ends with a document prints it. -/
theorem outcome_of_ok {i : Invocation} {w : Surroundings} {text : String}
    (h : i.printed w = .ok text) : i.outcome w = ⟨.success, text ++ "\n",
      errorLines w.stamp i.isDebug (i.work w).document.events, (i.work w).document.events,
      (i.work w).files⟩ := by
  unfold printed at h
  simp only [outcome, h]

/-- A command that ends with a fault names it if it is expected. -/
theorem outcome_of_error {i : Invocation} {w : Surroundings} {f : Fault}
    (h : i.printed w = .error f) : i.outcome w =
      if f.isExpected then ⟨.failure, "",
        errorLines w.stamp i.isDebug (i.work w).document.events ++ failureLine f,
        (i.work w).document.events, (i.work w).files⟩
      else ⟨.escape f, "", errorLines w.stamp i.isDebug (i.work w).document.events,
        (i.work w).document.events, (i.work w).files⟩ := by
  unfold printed at h
  simp only [outcome, h]

/-- A command that ends with a document or an expected fault is reported; with any other fault the
run escapes. -/
theorem outcome_of_printed (i : Invocation) (w : Surroundings) :
    (¬ Escapes (i.printed w) ∧ i.ReportedBy w (i.outcome w)) ∨
      Escapes (i.printed w) ∧ ∃ f, (i.outcome w).ending = .escape f := by
  cases hprinted : i.printed w with
  | ok text =>
    rw [outcome_of_ok hprinted]
    exact .inl ⟨not_escapes_ok _, .success hprinted rfl rfl⟩
  | error f =>
    rw [outcome_of_error hprinted, escapes_error_iff]
    cases hexpected : f.isExpected with
    | true => exact .inl ⟨Bool.noConfusion, .failure hprinted rfl rfl rfl⟩
    | false => exact .inr ⟨rfl, f, rfl⟩

theorem printed_escapes_iff (i : Invocation) {w : Surroundings} (hw : w.Ordinary) :
    Escapes (i.printed w) ↔ FirstEscapes (i.examinations w) := by
  rw [← i.work_escapes_iff hw, printed, escapes_bind_iff]
  exact or_iff_left fun ⟨v, _, h⟩ => (Json.print_expected i.layout v).not_escapes h

end Invocation

/-! ## Environments -/

/-- The settings that a run starts with, and the defaults that it finds. -/
def startSettings (env : Environment) : Except Fault (Defaults × Settings) := do
  let d ← Defaults.ofEnvironment env
  let s ← Settings.ofEnvironment d env
  pure (d, s)

/-- That an environment has no number where it should have one. -/
def Misreads (env : Environment) : Prop :=
  ∃ name ∈ ["L1_CHAIN_ID", "ROLLUP_ID"], ∃ t f, env.get? name = some t ∧
    Text.readInteger t.chars = .error f

/-- An integer of the environment is read unless it is there and is none. -/
theorem integer_eq_error_iff (env : Environment) (name : String) (default : Int) :
    (∃ f, env.integer name default = .error f) ↔
      ∃ t f, env.get? name = some t ∧ Text.readInteger t.chars = .error f := by
  unfold Environment.integer
  cases env.get? name with
  | none => simp
  | some t =>
    have hread : (∃ f, (Value.text t).toInteger = .error f) ↔
        ∃ f, Text.readInteger t.chars = .error f := by
      change (∃ f, Value.toInteger.decimal (.text t) t.chars = .error f) ↔ _
      unfold Value.toInteger.decimal
      cases Text.readInteger t.chars with
      | ok n => simp
      | error f => cases f <;> simp
    rw [hread]
    simp

/-- Two integers are read unless one of them is not. -/
theorem override_eq_error_iff (d : Defaults) (env : Environment) :
    (∃ f, d.override env = .error f) ↔ Misreads env := by
  have hmisreads : Misreads env ↔ (∃ f, env.integer "L1_CHAIN_ID" d.l1Chain = .error f) ∨
      ∃ f, env.integer "ROLLUP_ID" d.rollup = .error f := by
    rw [integer_eq_error_iff, integer_eq_error_iff]
    simp [Misreads]
  rw [hmisreads, Defaults.override]
  cases env.integer "L1_CHAIN_ID" d.l1Chain with
  | error f => simp [bind, Except.bind]
  | ok chain =>
    cases env.integer "ROLLUP_ID" d.rollup <;> simp [bind, Except.bind, pure, Except.pure]

/-- A run finds no settings where its environment has no number. -/
theorem startSettings_eq_error_iff (env : Environment) :
    (∃ f, startSettings env = .error f) ↔ Misreads env := by
  have hdefaults := override_eq_error_iff .builtin env
  unfold startSettings Defaults.ofEnvironment
  cases hd : Defaults.builtin.override env with
  | error f =>
    rw [hd] at hdefaults
    simpa [bind, Except.bind] using hdefaults
  | ok d =>
    have hsettings := override_eq_error_iff d env
    rw [← hsettings]
    unfold Settings.ofEnvironment
    cases hs : d.override env <;> simp [hs, bind, Except.bind, pure, Except.pure]

/-! ## Runs -/

/-- That arguments ask for a command, whatever the settings are. -/
def Accepted (arguments : List Text) : Prop :=
  ∃ d s i, Invocation.ofArguments d s arguments = .ok i

/-- Arguments are read as those of the program and then as those of the command, with nothing left
over; the settings only fill in what the options do not say. -/
theorem ofArguments_eq_ok_iff {d : Defaults} {s : Settings} {arguments : List Text}
    {i : Invocation} : Invocation.ofArguments d s arguments = .ok i ↔
      ∃ p name rest command extras, Invocation.grammar.parse arguments = .ok p ∧
        p.command = some (name, rest) ∧ Invocation.readCommand name rest = .ok (command, extras) ∧
        p.extras ++ extras = [] ∧ i = ⟨Invocation.settingsOf d s p, (p.get? "pretty").isSome,
          (p.get? "debug").isSome, command⟩ := by
  unfold Invocation.ofArguments
  constructor
  · intro h
    cases hparse : Invocation.grammar.parse arguments with
    | error e => simp [hparse, bind, Except.bind] at h
    | ok p =>
      simp only [hparse, bind, Except.bind] at h
      cases hcommand : p.command with
      | none => simp [hcommand] at h
      | some named =>
        simp only [hcommand] at h
        cases hread : Invocation.readCommand named.1 named.2 with
        | error e => simp [hread] at h
        | ok read =>
          simp only [hread] at h
          split at h
          · next hleft =>
            exact ⟨p, named.1, named.2, read.1, read.2, rfl, hcommand, hread, hleft,
              (Except.ok.inj h).symm⟩
          · cases h
  · rintro ⟨p, name, rest, command, extras, hparse, hcommand, hread, hleft, rfl⟩
    simp only [hparse, hcommand, hread, hleft, bind, Except.bind, if_true]
    rfl

/-- Whether arguments are accepted does not depend on the settings. -/
theorem Accepted.exists_invocation {arguments : List Text} (h : Accepted arguments) (d : Defaults)
    (s : Settings) : ∃ i, Invocation.ofArguments d s arguments = .ok i := by
  obtain ⟨d', s', i, hi⟩ := h
  obtain ⟨p, name, rest, command, extras, hparse, hcommand, hread, hleft, -⟩ :=
    ofArguments_eq_ok_iff.mp hi
  exact ⟨_, ofArguments_eq_ok_iff.mpr
    ⟨p, name, rest, command, extras, hparse, hcommand, hread, hleft, rfl⟩⟩

/-- That a run is asked for a command by its arguments, with settings from its environment. -/
def Asks (env : Environment) (arguments : List Text) (i : Invocation) : Prop :=
  ∃ d s, startSettings env = .ok (d, s) ∧ Invocation.ofArguments d s arguments = .ok i

theorem run_eq (w : Surroundings) (arguments : List Text) : run w arguments =
    match startSettings w.environment with
    | .error f => ⟨.escape f, "", "", [], w.files⟩
    | .ok (d, s) =>
      match Invocation.ofArguments d s arguments with
      | .error .help => ⟨.help, "", "", [], w.files⟩
      | .error (.usage program message) => ⟨.usage program message, "", "", [], w.files⟩
      | .ok i => i.outcome w := rfl

theorem run_of_asks {w : Surroundings} {arguments : List Text} {i : Invocation}
    (h : Asks w.environment arguments i) : run w arguments = i.outcome w := by
  obtain ⟨d, s, hsettings, hinvocation⟩ := h
  rw [run_eq, hsettings]
  simp only
  rw [hinvocation]

theorem Asks.eq {env : Environment} {arguments : List Text} {i j : Invocation}
    (hi : Asks env arguments i) (hj : Asks env arguments j) : j = i := by
  obtain ⟨d, s, hsettings, hi⟩ := hi
  obtain ⟨d', s', hsettings', hj⟩ := hj
  obtain ⟨rfl, rfl⟩ := Prod.mk.inj (Except.ok.inj (hsettings.symm.trans hsettings'))
  exact Except.ok.inj (hj.symm.trans hi)

/-- A run that is asked for a command has an environment that can be read, and arguments that ask
for one. -/
theorem Asks.isAccepted {env : Environment} {arguments : List Text} {i : Invocation}
    (h : Asks env arguments i) : ¬ Misreads env ∧ Accepted arguments := by
  obtain ⟨d, s, hsettings, hinvocation⟩ := h
  refine ⟨fun hmisreads => ?_, d, s, i, hinvocation⟩
  obtain ⟨f, hf⟩ := (startSettings_eq_error_iff env).mpr hmisreads
  cases hf.symm.trans hsettings

/-- What a run is asked for. -/
def asked? (env : Environment) (arguments : List Text) : Option Invocation :=
  (startSettings env).toOption.bind fun start =>
    (Invocation.ofArguments start.1 start.2 arguments).toOption

theorem asks_of_asked? {env : Environment} {arguments : List Text} {i : Invocation}
    (h : asked? env arguments = some i) : Asks env arguments i := by
  unfold asked? at h
  cases hstart : startSettings env with
  | error f =>
    rw [hstart] at h
    cases h
  | ok start =>
    rw [hstart] at h
    cases hi : Invocation.ofArguments start.1 start.2 arguments with
    | error e =>
      rw [Except.toOption, Option.bind_some, hi] at h
      cases h
    | ok j =>
      rw [Except.toOption, Option.bind_some, hi] at h
      cases h
      exact ⟨start.1, start.2, hstart, hi⟩

/-- That a run carries out a command and reports how it ends. -/
def EndsInOrder (w : Surroundings) (arguments : List Text) : Prop :=
  ∃ i, Asks w.environment arguments i ∧ i.ReportedBy w (run w arguments)

/-- That a run has a failure which is not reported: its environment has no number where it should
have one, or the command that it carries out escapes at one of its examinations. -/
inductive Unreported (w : Surroundings) (arguments : List Text) : Prop
  | environment (h : Misreads w.environment)
  | command {i : Invocation} (hasks : Asks w.environment arguments i)
    (h : FirstEscapes (i.examinations w))

/-- A run that is asked for a command has a failure that is not reported if the command escapes. -/
theorem unreported_iff_of_asks {w : Surroundings} {arguments : List Text} {i : Invocation}
    (h : Asks w.environment arguments i) :
    Unreported w arguments ↔ FirstEscapes (i.examinations w) := by
  constructor
  · rintro (hmisreads | ⟨hasks, hescapes⟩)
    · obtain ⟨d, s, hsettings, -⟩ := h
      obtain ⟨f, hf⟩ := (startSettings_eq_error_iff w.environment).mpr hmisreads
      cases hf.symm.trans hsettings
    · rw [h.eq hasks] at hescapes
      exact hescapes
  · exact .command h

theorem not_endsInOrder_of_escape {w : Surroundings} {arguments : List Text}
    (h : ∃ f, (run w arguments).ending = .escape f) : ¬ EndsInOrder w arguments := by
  obtain ⟨f, hf⟩ := h
  rintro ⟨i, -, hreported⟩
  rcases hreported with ⟨-, hending, -⟩ | ⟨-, hending, -, -⟩ <;>
    cases hending.symm.trans hf

/-- A run whose arguments ask for a command ends in order, and then none of its failures is
unreported, or a fault that nobody expects ends it. -/
theorem endsInOrder_or_escape {w : Surroundings} (hw : w.Ordinary) {arguments : List Text}
    (harguments : Accepted arguments) :
    (EndsInOrder w arguments ∧ ¬ Unreported w arguments) ∨
      (∃ f, (run w arguments).ending = .escape f) ∧ Unreported w arguments := by
  cases hsettings : startSettings w.environment with
  | error f =>
    have hrun : run w arguments = ⟨.escape f, "", "", [], w.files⟩ := by rw [run_eq, hsettings]
    have hmisreads := (startSettings_eq_error_iff w.environment).mp ⟨f, hsettings⟩
    exact .inr ⟨⟨f, by rw [hrun]⟩, .environment hmisreads⟩
  | ok start =>
    obtain ⟨i, hi⟩ := harguments.exists_invocation start.1 start.2
    have hasks : Asks w.environment arguments i := ⟨start.1, start.2, hsettings, hi⟩
    rw [unreported_iff_of_asks hasks, ← i.printed_escapes_iff hw, EndsInOrder, run_of_asks hasks]
    rcases i.outcome_of_printed w with ⟨hprinted, hreported⟩ | ⟨hprinted, hescape⟩
    · exact .inl ⟨⟨i, hasks, hreported⟩, hprinted⟩
    · exact .inr ⟨hescape, hprinted⟩

/-- That a run in ordinary surroundings does not end in order although its arguments ask for a
command. -/
structure GoesAstray (w : Surroundings) (arguments : List Text) : Prop where
  ordinary : w.Ordinary
  accepted : Accepted arguments
  disorder : ¬ EndsInOrder w arguments

/-- A run goes astray if a failure of it is not reported. -/
theorem goesAstray_of_unreported {w : Surroundings} (hw : w.Ordinary) {arguments : List Text}
    (harguments : Accepted arguments) (h : Unreported w arguments) : GoesAstray w arguments where
  ordinary := hw
  accepted := harguments
  disorder := by
    rcases endsInOrder_or_escape hw harguments with ⟨-, hreported⟩ | ⟨hescape, -⟩
    · exact absurd h hreported
    · exact not_endsInOrder_of_escape hescape

/-! ## Runs without a node -/

/-- Surroundings without a node, with some variables and some files. -/
def alone (env : Environment) (fs : Files) : Surroundings where
  environment := env
  node := ⟨[], []⟩
  clock := ⟨[]⟩
  now := 0
  files := fs
  key := .ok Builder.countingAddress
  stamp := ""

theorem exists_eq_ok_of_isOk {ε α : Type} {x : Except ε α} (h : x.isOk = true) :
    ∃ a, x = .ok a := by
  cases x with
  | ok a => exact ⟨a, rfl⟩
  | error f => cases h

theorem ordinary_alone (env : Environment) (fs : Files) : (alone env fs).Ordinary where
  node := ⟨fun _ h => absurd h List.not_mem_nil, fun _ h => absurd h List.not_mem_nil⟩
  key f h := by cases h
  connecting := by
    have hclock : (Clock.between ⟨[]⟩ 0 1).isOk = true := by decide +kernel
    exact exists_eq_ok_of_isOk hclock
  reading := by
    have hclock : (Clock.between ⟨[]⟩ 2 3).isOk = true := by decide +kernel
    exact exists_eq_ok_of_isOk hclock
  moment := by
    have hmoment : (Calendar.momentText 0).isOk = true := by decide +kernel
    exact exists_eq_ok_of_isOk hmoment

/-- The table of the ledger can be made in a database that is new. -/
theorem takesLedger_of_new {ds : Directories} {fs : Files} {path : Text}
    (h : fs.connect ds path = .ok (.ofDatabase .empty)) : TakesLedger ds fs path := by
  have hhome : Ledger.default.tableName.home? = some ⟨.main, "sequence"⟩ := by decide +kernel
  exact ⟨_, h, (Ledger.Follows.createSchema hhome .connection isTableName_default (.new _)).2⟩

/-- The range that is to be recorded in the file of the settings. -/
def Invocation.range? (i : Invocation) : Option (Int × Int) :=
  match i.command with
  | .recordSequence (.integer first) (.integer last) none => some (first, last)
  | _ => none

/-- The range that arguments ask to record where the environment is empty. -/
def rangeAsked? (arguments : List Text) : Option (Int × Int) :=
  (Invocation.ofArguments .builtin (.ofDefaults .builtin) arguments).toOption.bind
    Invocation.range?

/-- Recording a range in an empty directory is not reported if one of its ends has more than 64
bits. -/
theorem unreported_range_iff {arguments : List Text} {first last : Int}
    (h : rangeAsked? arguments = some (first, last)) :
    Accepted arguments ∧ (Unreported (alone [] []) arguments ↔
      Store.Cell.fits first = false ∨ Store.Cell.fits last = false) := by
  unfold rangeAsked? at h
  cases hi : Invocation.ofArguments .builtin (.ofDefaults .builtin) arguments with
  | error e =>
    rw [hi] at h
    cases h
  | ok i =>
    rw [hi] at h
    have hasks : Asks [] arguments i := ⟨_, _, rfl, hi⟩
    obtain ⟨p, name, rest, command, extras, -, -, -, -, rfl⟩ := ofArguments_eq_ok_iff.mp hi
    obtain rfl : command = .recordSequence (.integer first) (.integer last) none := by
      change Invocation.range? ⟨_, _, _, command⟩ = some (first, last) at h
      unfold Invocation.range? at h
      split at h
      · next m n hcommand =>
        obtain ⟨rfl, rfl⟩ := Prod.mk.inj (Option.some.inj h)
        exact hcommand
      · cases h
    refine ⟨⟨_, _, _, hi⟩, ?_⟩
    have htakes : TakesLedger {} [] "sequences.db" := takesLedger_of_new rfl
    rw [unreported_iff_of_asks hasks]
    change FirstEscapes (recordings {} [] "sequences.db" (.integer first) (.integer last)) ↔ _
    have hhuge (n : Int) : Store.Cell.IsHuge (.integer n) ↔ Store.Cell.fits n = false := by
      simp [Store.Cell.IsHuge]
    have hcell : (∃ cell, Store.Cell.ofValue 1 (.integer first) = .ok cell) ↔
        Store.Cell.fits first = true := by
      cases hfits : Store.Cell.fits first <;> simp [Store.Cell.ofValue, hfits]
    simp only [recordings, firstEscapes_cons_iff, not_firstEscapes_nil, hhuge, hcell, htakes,
      and_false, or_false, false_or, true_and]
    cases Store.Cell.fits first <;> simp

/-! ## Ends of runs -/

/-- A run in ordinary surroundings whose arguments ask for a command prints a document, or names its
failure and ends in order, exactly if none of its failures is unreported; otherwise a fault that
nobody expects ends it. -/
theorem endsInOrder_iff {w : Surroundings} (hw : w.Ordinary) {arguments : List Text}
    (harguments : Accepted arguments) :
    (EndsInOrder w arguments ↔ ¬ Unreported w arguments) ∧
      ((∃ f, (run w arguments).ending = .escape f) ↔ Unreported w arguments) := by
  rcases endsInOrder_or_escape hw harguments with ⟨horder, hreported⟩ | ⟨hescape, hunreported⟩
  · refine ⟨iff_of_true horder hreported, iff_of_false ?_ hreported⟩
    intro hescape
    exact not_endsInOrder_of_escape hescape horder
  · exact ⟨iff_of_false (not_endsInOrder_of_escape hescape) (not_not_intro hunreported),
      iff_of_true hescape hunreported⟩

/-- In an empty directory a range of small batches is recorded, and the run ends in order. -/
theorem endsInOrder_smallRange : (alone [] []).Ordinary ∧ Accepted ["record-sequence", "5", "6"] ∧
    EndsInOrder (alone [] []) ["record-sequence", "5", "6"] := by
  have hrange : rangeAsked? ["record-sequence", "5", "6"] = some (5, 6) := by decide +kernel
  obtain ⟨haccepted, hunreported⟩ := unreported_range_iff hrange
  have hreported : ¬ Unreported (alone [] []) ["record-sequence", "5", "6"] := by
    rw [hunreported]
    decide
  exact ⟨ordinary_alone [] [], haccepted,
    (endsInOrder_iff (ordinary_alone [] []) haccepted).1.mpr hreported⟩

/-- A directory with a list in a file, and an environment that names both contracts. -/
def listed : Surroundings :=
  alone [("ROLLUP_MANAGER_ADDRESS", "manager"), ("LEGACY_ROLLUP_ADDRESS", "legacy")]
    [("inputs", .bytes "[]".toUTF8.data.toList)]

/-- Three runs do not end in order: one for a rollup whose id is a letter, one that records a batch
with more than 64 bits, and one with a list where the proof and the roots should be. -/
theorem goesAstray_misused :
    GoesAstray (alone [("ROLLUP_ID", "x")] []) ["record-sequence", "5", "6"] ∧
    GoesAstray (alone [] []) ["record-sequence", "9223372036854775808", "6"] ∧
    GoesAstray listed
      ["build-verify", "inputs", "--last", "5", "--new", "6", "--beneficiary", "anyone"] := by
  have hsmall : rangeAsked? ["record-sequence", "5", "6"] = some (5, 6) := by decide +kernel
  have hlarge : rangeAsked? ["record-sequence", "9223372036854775808", "6"] =
      some (9223372036854775808, 6) := by decide +kernel
  have hcall : (Invocation.ofArguments .builtin (.ofDefaults .builtin)
      ["build-verify", "inputs", "--last", "5", "--new", "6", "--beneficiary",
        "anyone"]).isOk = true := by decide +kernel
  have hlist : (match (run listed ["build-verify", "inputs", "--last", "5", "--new", "6",
        "--beneficiary", "anyone"]).ending with
      | .escape _ => true
      | _ => false) = true := by decide +kernel
  refine ⟨⟨ordinary_alone _ _, (unreported_range_iff hsmall).1, ?_⟩,
    goesAstray_of_unreported (ordinary_alone _ _) (unreported_range_iff hlarge).1 ?_,
    ⟨ordinary_alone _ _, ⟨_, _, exists_eq_ok_of_isOk hcall⟩, ?_⟩⟩
  · exact not_endsInOrder_of_escape ⟨_, rfl⟩
  · rw [(unreported_range_iff hlarge).2]
    exact .inl (by decide)
  · refine not_endsInOrder_of_escape ?_
    split at hlist
    · next f hf => exact ⟨f, hf⟩
    · cases hlist

end CommandLine

end BatchFrontier
