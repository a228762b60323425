import BatchFrontier.Conversion

/-!
# Settings

Where the node is, which chain and which rollup are meant, where the contracts are and where the
ledger is kept. Settings come from the environment, with defaults that the environment sets as well
when the program starts.
-/

namespace BatchFrontier

/-- The variables of the process. -/
abbrev Environment := List (Text × Text)

/-- A variable of the environment. -/
def Environment.get? (env : Environment) (name : Text) : Option Text :=
  (env.find? fun e => e.1 == name).map (·.2)

/-- An integer from the environment, or a default. -/
def Environment.integer (env : Environment) (name : String) (default : Int) : Except Fault Int :=
  match env.get? name with
  | some t => (Value.text t).toInteger
  | none => .ok default

/-- The settings that have a default. -/
structure Defaults where
  rpcUrl : Text
  l1Chain : Int
  rollup : Int
  sequenceDb : Text
  deriving DecidableEq, Repr

namespace Defaults

/-- The defaults of an empty environment. -/
def builtin : Defaults := ⟨"https://mainnet.infura.io/v3/your_api_key", 1, 1, "sequences.db"⟩

/-- The defaults that an environment sets, where others stand in for what it does not set. -/
def override (d : Defaults) (env : Environment) : Except Fault Defaults := do
  let l1Chain ← env.integer "L1_CHAIN_ID" d.l1Chain
  let rollup ← env.integer "ROLLUP_ID" d.rollup
  pure ⟨(env.get? "RPC_URL").getD d.rpcUrl, l1Chain, rollup,
    (env.get? "SEQUENCE_DB").getD d.sequenceDb⟩

/-- The defaults of a process that starts in an environment. -/
def ofEnvironment (env : Environment) : Except Fault Defaults := builtin.override env

end Defaults

/-- All settings. -/
structure Settings where
  rpcUrl : Value
  l1Chain : Value
  rollup : Value
  manager : Value
  legacy : Value
  sequenceDb : Value
  deriving Repr

namespace Settings

/-- The settings of which only the defaults are known. -/
def ofDefaults (d : Defaults) : Settings :=
  ⟨.text d.rpcUrl, .integer d.l1Chain, .integer d.rollup, .nothing, .nothing, .text d.sequenceDb⟩

/-- A text that may be missing. -/
def optional (t : Option Text) : Value := (t.map .text).getD .nothing

/-- The settings of an environment, over defaults. -/
def ofEnvironment (d : Defaults) (env : Environment) : Except Fault Settings := do
  let d ← d.override env
  pure { ofDefaults d with
    manager := optional (env.get? "ROLLUP_MANAGER_ADDRESS")
    legacy := optional (env.get? "LEGACY_ROLLUP_ADDRESS") }

/-- The settings with a new value under a name. -/
def set (s : Settings) (name : Text) (v : Value) : Except Fault Settings :=
  match name.toString? with
  | some "rpc_url" => .ok { s with rpcUrl := v }
  | some "l1_chain_id" => .ok { s with l1Chain := v }
  | some "rollup_id" => .ok { s with rollup := v }
  | some "rollup_manager_address" => .ok { s with manager := v }
  | some "legacy_rollup_address" => .ok { s with legacy := v }
  | some "sequence_db" => .ok { s with sequenceDb := v }
  | _ => .error (.unknownSetting name)

/-- The settings with new values under several names. -/
def setAll (s : Settings) (values : List (Text × Value)) : Except Fault Settings :=
  values.foldlM (fun s v => s.set v.1 v.2) s

/-- The settings by their names. -/
def fields (s : Settings) : List (Text × Value) :=
  [("rpc_url", s.rpcUrl), ("l1_chain_id", s.l1Chain), ("rollup_id", s.rollup),
   ("rollup_manager_address", s.manager), ("legacy_rollup_address", s.legacy),
   ("sequence_db", s.sequenceDb)]

/-- Checks that both contracts are named and that both ids are positive. -/
def validate (s : Settings) : Except Fault Unit := do
  if s.manager.isUnset then throw .managerUnset
  if s.legacy.isUnset then throw .legacyUnset
  if ← s.l1Chain.isNonpositive then throw (.showing .settingChain s.l1Chain)
  if ← s.rollup.isNonpositive then throw (.showing .settingRollup s.rollup)

end Settings

end BatchFrontier
