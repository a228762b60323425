import BatchFrontier.Proofs.GivenOptions
import BatchFrontier.Proofs.UnreportedFailures

/-!
# Where settings come from

A setting is what its flag was given last, or else what its variable is set to, or else what is
built in. On the way it passes the defaults that are made when the program starts, the settings that
are read over these defaults, and the options of the program. The ledger is kept where the option of
the command says; an empty answer does not count.
-/

namespace BatchFrontier

namespace Environment

/-- The text that a variable is set to. -/
def text? (env : Environment) (name : String) : Option Value := (env.get? name).map .text

/-- The integer that a variable is set to. -/
def integer? (env : Environment) (name : String) : Option Value :=
  (env.get? name).bind fun t => (Text.readInteger t.chars).toOption.map .integer

/-- An integer that was read is the one that the variable is set to, or the default. -/
theorem integer_of_ok {env : Environment} {name : String} {default n : Int}
    (h : env.integer name default = .ok n) :
    (.integer n : Value) = (env.integer? name).getD (.integer default) := by
  unfold integer at h
  unfold integer?
  cases hvariable : env.get? name with
  | none =>
    rw [hvariable] at h
    cases h
    rfl
  | some t =>
    rw [hvariable] at h
    have hread : Value.toInteger.decimal (.text t) t.chars = .ok n := h
    unfold Value.toInteger.decimal at hread
    split at hread
    · next m hm =>
      cases hread
      simp [hm, Except.toOption]
    · cases hread
    · cases hread

/-- An integer that was read over another that was read from the same variable is the same. -/
theorem integer_of_ok_of_ok {env : Environment} {name : String} {default n m : Int}
    (hn : env.integer name default = .ok n) (hm : env.integer name n = .ok m) : m = n := by
  have hsame : (.integer m : Value) = .integer n := by
    rw [integer_of_ok hm, integer_of_ok hn]
    cases env.integer? name <;> rfl
  exact Value.integer.inj hsame

end Environment

/-- Defaults that are read over those which the same environment set are the same. -/
theorem Defaults.override_of_override {d d' d'' : Defaults} {env : Environment}
    (h : d.override env = .ok d') (h' : d'.override env = .ok d'') : d'' = d' := by
  unfold override at h h'
  simp only [bind_eq_ok_iff] at h h'
  obtain ⟨chain, hchain, rollup, hrollup, h⟩ := h
  cases h
  obtain ⟨chain', hchain', rollup', hrollup', h'⟩ := h'
  cases h'
  obtain rfl := Environment.integer_of_ok_of_ok hchain hchain'
  obtain rfl := Environment.integer_of_ok_of_ok hrollup hrollup'
  cases env.get? "RPC_URL" <;> cases env.get? "SEQUENCE_DB" <;> rfl

namespace CommandLine

/-- The first of three sources that has a value: a flag, a variable, and what is built in. -/
def chosen (given set : Option Value) (builtin : Value) : Value := (given.or set).getD builtin

/-- That settings come from flags, variables and what is built in, in this order. -/
structure SettingsFrom (env : Environment) (given : List (OptionSpec × Value)) (s : Settings) :
    Prop where
  rpcUrl : s.rpcUrl = chosen (Grammar.lastGiven "--rpc" given) (env.text? "RPC_URL")
    (.text "https://mainnet.infura.io/v3/your_api_key")
  l1Chain : s.l1Chain = chosen (Grammar.lastGiven "--l1-chain-id" given)
    (env.integer? "L1_CHAIN_ID") (.integer 1)
  rollup : s.rollup = chosen (Grammar.lastGiven "--rollup-id" given) (env.integer? "ROLLUP_ID")
    (.integer 1)
  manager : s.manager = chosen (Grammar.lastGiven "--manager" given)
    (env.text? "ROLLUP_MANAGER_ADDRESS") .nothing
  legacy : s.legacy = chosen (Grammar.lastGiven "--legacy" given)
    (env.text? "LEGACY_ROLLUP_ADDRESS") .nothing
  sequenceDb : s.sequenceDb = chosen none (env.text? "SEQUENCE_DB") (.text "sequences.db")

/-- That what a command uses of its surroundings comes from its arguments and the environment. The
ledger is kept where the option of the command says, unless that is empty. -/
def Invocation.IsSourced (i : Invocation) (env : Environment) (arguments : List Text) : Prop :=
  ∃ given, ∃ name : String, ∃ rest, grammar.ArgumentsGive arguments given (name :: rest) ∧
    readCommand name rest = .ok (i.command, []) ∧ SettingsFrom env given i.settings ∧
    ∀ first last db, i.command = .recordSequence first last db →
      ∃ given', recordSequenceGrammar.ArgumentsGive rest given' [] ∧
        ledgerPath i.settings db = (chosen
          ((Grammar.lastGiven "--db" given').filter fun v => !v.isUnset)
          (env.text? "SEQUENCE_DB") (.text "sequences.db")).shown

/-! ## Variables -/

/-- A run starts with what variables are set to, or with what is built in. -/
theorem settingsFrom_startSettings {env : Environment} {d : Defaults} {s : Settings}
    (h : startSettings env = .ok (d, s)) :
    SettingsFrom env [] s ∧ s.sequenceDb = .text d.sequenceDb := by
  unfold startSettings Defaults.ofEnvironment Settings.ofEnvironment at h
  simp only [bind_eq_ok_iff] at h
  obtain ⟨d', hd, s', ⟨d'', hd', hs⟩, h⟩ := h
  cases h
  cases hs
  obtain rfl := Defaults.override_of_override hd hd'
  unfold Defaults.override at hd
  simp only [bind_eq_ok_iff] at hd
  obtain ⟨chain, hchain, rollup, hrollup, hd⟩ := hd
  cases hd
  have htext (name : String) (builtin : Text) :
      (.text ((env.get? name).getD builtin) : Value) =
        chosen none (env.text? name) (.text builtin) := by
    cases hset : env.get? name <;> simp [chosen, Environment.text?, hset]
  exact ⟨⟨htext _ _, Environment.integer_of_ok hchain, Environment.integer_of_ok hrollup, rfl, rfl,
    htext _ _⟩, rfl⟩

/-! ## Options -/

/-- What an option was given counts before what a setting was. -/
theorem getD_eq_chosen {given set : Option Value} {builtin v : Value}
    (h : v = chosen none set builtin) : given.getD v = chosen given set builtin := by
  rw [h]
  cases given <;> rfl

/-- The options of a program leave or change the settings that come from variables. -/
theorem SettingsFrom.settingsOf {env : Environment} {s : Settings} {d : Defaults} {p : Parsed}
    {given : List (OptionSpec × Value)} (h : SettingsFrom env [] s)
    (hdb : s.sequenceDb = .text d.sequenceDb)
    (hgiven : ∀ name key, (∀ o ∈ Invocation.grammar.singles, o.key ≠ key) →
      (∀ o ∈ Invocation.grammar.options, (o.key == key) = o.names.contains name) →
      p.get? key = Grammar.lastGiven name given) :
    SettingsFrom env given (Invocation.settingsOf d s p) where
  rpcUrl := by
    rw [← hgiven "--rpc" "rpc" (by decide) (by decide)]
    exact getD_eq_chosen h.rpcUrl
  l1Chain := by
    rw [← hgiven "--l1-chain-id" "l1_chain_id" (by decide) (by decide)]
    exact getD_eq_chosen h.l1Chain
  rollup := by
    rw [← hgiven "--rollup-id" "rollup_id" (by decide) (by decide)]
    exact getD_eq_chosen h.rollup
  manager := by
    rw [← hgiven "--manager" "manager" (by decide) (by decide)]
    exact getD_eq_chosen h.manager
  legacy := by
    rw [← hgiven "--legacy" "legacy" (by decide) (by decide)]
    exact getD_eq_chosen h.legacy
  sequenceDb := hdb.symm.trans h.sequenceDb

/-- The path of a ledger is what the option was given, unless that is empty. -/
theorem ledgerPath_eq (s : Settings) (db : Option Value) :
    ledgerPath s db = ((db.filter fun v => !v.isUnset).getD s.sequenceDb).shown := by
  cases db with
  | none => rfl
  | some v => cases hunset : v.isUnset <;> simp [ledgerPath, hunset, Option.filter]

/-- The arguments of a command that records a range were read by its grammar. -/
theorem parse_of_readCommand {name : String} {rest extras : List Text} {first last : Value}
    {db : Option Value}
    (h : Invocation.readCommand name rest = .ok (.recordSequence first last db, extras)) :
    ∃ p, Invocation.recordSequenceGrammar.parse rest = .ok p ∧ p.extras = extras ∧
      p.get? "db" = db := by
  unfold Invocation.readCommand at h
  split at h
  all_goals
    simp only [bind_eq_ok_iff] at h
    obtain ⟨p, hp, h⟩ := h
  · cases h
  · cases h
  · cases h
    exact ⟨p, hp, rfl, rfl⟩

/-- What a run is asked for comes from its arguments and its environment. -/
theorem Asks.isSourced {env : Environment} {arguments : List Text} {i : Invocation}
    (h : Asks env arguments i) : i.IsSourced env arguments := by
  obtain ⟨d, s, hsettings, hinvocation⟩ := h
  obtain ⟨p, name, rest, command, extras, hparse, hcommand, hread, hleft, rfl⟩ :=
    ofArguments_eq_ok_iff.mp hinvocation
  obtain ⟨hplaced, rfl⟩ := List.append_eq_nil_iff.mp hleft
  obtain ⟨hfrom, hdb⟩ := settingsFrom_startSettings hsettings
  obtain ⟨given, hgives, hvalues⟩ := Grammar.exists_argumentsGive (by decide) hparse hplaced
  rw [hcommand] at hgives
  have hsettings := hfrom.settingsOf hdb hvalues
  refine ⟨given, name, rest, hgives, hread, hsettings, ?_⟩
  rintro first last db rfl
  obtain ⟨p', hparse', hplaced', rfl⟩ := parse_of_readCommand hread
  obtain ⟨given', hgives', hvalues'⟩ := Grammar.exists_argumentsGive (by decide) hparse' hplaced'
  rw [hgives'.eq_nil rfl] at hgives'
  refine ⟨given', hgives', ?_⟩
  rw [ledgerPath_eq, ← hvalues' "--db" "db" (by decide) (by decide)]
  exact congrArg Value.shown (getD_eq_chosen hsettings.sequenceDb)

end CommandLine

end BatchFrontier
