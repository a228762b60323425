import BatchFrontier.CommandLine.Arguments
import BatchFrontier.Settings

/-!
# Invocations

What the program is asked to do: one of three commands, with the settings that its options leave or
change. Options of the program stand before the command, options of the command after it.
-/

namespace BatchFrontier.CommandLine

/-- A command with its arguments. Any of them may be an empty list, see `Grammar.valueOf`. -/
inductive Command where
  /-- Shows the state of the rollup, with the hash of a batch if one is given. -/
  | state (batch : Option Value)
  /-- Builds the call that verifies a range of batches. -/
  | buildVerify (inputs last new beneficiary : Value)
  /-- Records a range of batches. -/
  | recordSequence (first last : Value) (db : Option Value)
  deriving Repr

/-- A command with what it is carried out under. -/
structure Invocation where
  settings : Settings
  isPretty : Bool
  isDebug : Bool
  command : Command
  deriving Repr

namespace Invocation

/-- The name of the program. -/
def program : String := "rollup-l1-bridge"

/-- The option that every grammar has. -/
def help : OptionSpec := ⟨["-h", "--help"], "help", .help, false⟩

/-- The names of the commands. -/
def commands : List String := ["state", "build-verify", "record-sequence"]

/-- What the program takes before the command. -/
def grammar : Grammar where
  program := program
  options :=
    [help, ⟨["--rpc"], "rpc", .text, false⟩, ⟨["--manager"], "manager", .text, false⟩,
     ⟨["--legacy"], "legacy", .text, false⟩, ⟨["--rollup-id"], "rollup_id", .integer, false⟩,
     ⟨["--l1-chain-id"], "l1_chain_id", .integer, false⟩, ⟨["--pretty"], "pretty", .flag, false⟩,
     ⟨["--debug"], "debug", .flag, false⟩]
  operands := .command "command" commands

/-- What the command `state` takes. -/
def stateGrammar : Grammar where
  program := program ++ " state"
  options := [help, ⟨["--batch"], "batch", .integer, false⟩]
  operands := .single []

/-- What the command `build-verify` takes. -/
def buildVerifyGrammar : Grammar where
  program := program ++ " build-verify"
  options :=
    [help, ⟨["--last"], "last", .integer, true⟩, ⟨["--new"], "new", .integer, true⟩,
     ⟨["--beneficiary"], "beneficiary", .text, true⟩]
  operands := .single [⟨"inputs", false⟩]

/-- What the command `record-sequence` takes. -/
def recordSequenceGrammar : Grammar where
  program := program ++ " record-sequence"
  options := [help, ⟨["--db"], "db", .text, false⟩]
  operands := .single [⟨"from_batch", true⟩, ⟨"to_batch", true⟩]

/-- A value that the grammar requires. -/
def required (p : Parsed) (key : String) : Value := (p.get? key).getD .nothing

/-- Reads a command and its arguments, and the arguments that are left over. -/
def readCommand (name : String) (args : List Text) : Except Halt (Command × List Text) :=
  match name with
  | "state" => do
    let p ← stateGrammar.parse args
    pure (.state (p.get? "batch"), p.extras)
  | "build-verify" => do
    let p ← buildVerifyGrammar.parse args
    pure (.buildVerify (required p "inputs") (required p "last") (required p "new")
      (required p "beneficiary"), p.extras)
  | _ => do
    let p ← recordSequenceGrammar.parse args
    pure (.recordSequence (required p "from_batch") (required p "to_batch") (p.get? "db"),
      p.extras)

/-- The settings that the options leave or change. Where the ledger is kept stays as it was when the
program started. -/
def settingsOf (d : Defaults) (s : Settings) (p : Parsed) : Settings where
  rpcUrl := (p.get? "rpc").getD s.rpcUrl
  l1Chain := (p.get? "l1_chain_id").getD s.l1Chain
  rollup := (p.get? "rollup_id").getD s.rollup
  manager := (p.get? "manager").getD s.manager
  legacy := (p.get? "legacy").getD s.legacy
  sequenceDb := .text d.sequenceDb

/-- Reads the arguments of the program, over settings and defaults from the environment. -/
def ofArguments (d : Defaults) (s : Settings) (args : List Text) : Except Halt Invocation := do
  let p ← grammar.parse args
  match p.command with
  | none => .error .help
  | some (name, rest) => do
    let (command, extras) ← readCommand name rest
    let left := p.extras ++ extras
    if left = [] then
      pure ⟨settingsOf d s p, (p.get? "pretty").isSome, (p.get? "debug").isSome, command⟩
    else grammar.refuse ("unrecognized arguments: " ++ Text.intercalate " " left)

end Invocation

end BatchFrontier.CommandLine
