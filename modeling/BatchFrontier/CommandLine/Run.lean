import BatchFrontier.Calendar
import BatchFrontier.Calldata
import BatchFrontier.CommandLine.Invocation
import BatchFrontier.Connection
import BatchFrontier.Files
import BatchFrontier.Json.Printer
import BatchFrontier.Json.Reader
import BatchFrontier.Ledger
import BatchFrontier.Reader

/-!
# Runs of the program

A run takes arguments and surroundings and ends in one of a few ways. A command yields a document,
which is written to the standard output when the command has succeeded and not before; lines about
what happens, and about a failure, go to the error output.
-/

namespace BatchFrontier.CommandLine

/-- What a run finds around it. -/
structure Surroundings where
  environment : Environment
  node : Chain.Node
  clock : Clock
  /-- The seconds since the start of 1970. -/
  now : Int
  files : Files
  /-- The key that is drawn if one is needed. -/
  key : Except Fault Address
  /-- The time that stands before logged lines. -/
  stamp : String
  /-- Where the run stands among the directories. -/
  directories : Directories := {}
  /-- How many arrays and objects of a document may be open at once, which is what is left of the
  depth that calls may have. -/
  nesting : Nat := 985

/-- How a run ends. -/
inductive Ending where
  /-- The command succeeded. -/
  | success
  /-- The command failed, and the failure was named. -/
  | failure
  /-- Help was asked for. -/
  | help
  /-- The arguments are not accepted. -/
  | usage (program : String) (message : Text)
  /-- A fault that nobody expects ended the run. -/
  | escape (fault : Fault)
  deriving Repr

/-- What a run leaves behind. -/
structure Outcome where
  ending : Ending
  output : String
  errorOutput : Text
  events : List Event
  files : Files
  deriving Repr

/-- A command under way: what it does, the document it yields, and the files after it. -/
structure Work where
  document : Traced Value
  files : Files

/-- The name under which a part of the library logs. -/
def topicName : Topic → String
  | .calldata => "rollup_l1_bridge.calldata"
  | .state => "rollup_l1_bridge.state"

/-- The name of a level. -/
def levelName : Level → String
  | .debug => "DEBUG"
  | .info => "INFO"
  | .warning => "WARNING"
  | .error => "ERROR"

/-- The line that an event leaves on the error output, if it leaves one. -/
def eventLine (stamp : String) (isDebug : Bool) : Event → Option Text
  | .status line => some line
  | .logged level topic message =>
    if level = .debug ∧ isDebug = false then none
    else some (stamp ++ " - " ++ topicName topic ++ " - " ++ levelName level ++ " - " ++ message)
  | _ => none

/-- The error output of some events. -/
def errorLines (stamp : String) (isDebug : Bool) (events : List Event) : Text :=
  Text.join ((events.filterMap (eventLine stamp isDebug)).map (· ++ "\n"))

/-- The line that names a failure. -/
def failureLine (f : Fault) : Text := "❌ " ++ f.message ++ "\n"

/-- The line about a place of the node that was never filled in. -/
def placeholderLine : String :=
  "⚠️  RPC_URL is not set and DEFAULT_RPC still uses a placeholder key. " ++
    "Set RPC_URL or pass --rpc."

/-- Whether the place of the node was never filled in. -/
def isPlaceholder (url : Text) : Bool := Text.occursIn "your_api_key".toList url.chars

/-- Connects to the node and reads the addresses of the contracts. -/
def openChain (w : Surroundings) (s : Settings) : Traced Contracts := do
  Connection.connect w.node w.clock s.rpcUrl (.integer Connection.defaultTimeout)
  Contracts.ofValues s.manager s.legacy

/-- The line about a state that was read. -/
def stateLine (rollup : Value) (verified chain : Int) (took : String) : Text :=
  "📦 Rollup " ++ rollup.shown ++ " verified up to batch " ++ Text.integer verified ++
    " (L2 chainId " ++ Text.integer chain ++ ") in " ++ took

/-- The number of the last block, if there is one. -/
def blockNumber (block : Option Value) : Except Fault Value :=
  match block with
  | none => .ok .nothing
  | some header => do
    let n ← (← header.named "number").toInteger
    pure (.integer n)

/-- The field with the hash of a batch, if a batch is asked for. -/
def hashField (r : Reader) (batch : Option Value) : Traced (List (Text × Value)) :=
  match batch with
  | none => pure []
  | some batch => do
    let hash ← r.accInputHash batch
    pure [("accInputHash", .text (Hex.writeMarked hash))]

/-- The document about the state of the rollup. -/
def stateDocument (w : Surroundings) (s : Settings) (batch : Option Value) : Traced Value := do
  let contracts ← openChain w s
  let reader : Reader := ⟨.ofNode w.node contracts, s.rollup⟩
  let block ← reader.latestBlock
  let network ← Network.nameOfNumber (← w.node.chainId)
  let verified ← reader.latestVerifiedBatch
  let chain ← reader.chainId
  let number ← blockNumber block
  let moment ← Calendar.momentText w.now
  let hash ← hashField reader batch
  let took ← w.clock.between 2 3
  Traced.emit (.status (stateLine s.rollup verified chain took))
  pure (.record
    (("mode", .text "rollup_state") :: ("network", .text network) :: ("rollupId", s.rollup) ::
      ("lastVerifiedBatch", .integer verified) :: ("l2ChainId", .integer chain) ::
      ("l1Block", number) :: ("generatedAtUtc", .text moment) :: hash))

/-- The proof and the roots of a document. -/
def proofInputs (document : Value) : Except Fault ProofInputs := do
  let proof ← document.named "proof"
  let exitRoot ← document.named "newLocalExitRoot"
  let stateRoot ← document.named "newStateRoot"
  pure ⟨proof, exitRoot, stateRoot⟩

/-- The proof and the roots of a file. -/
def readInputs (w : Surroundings) (path : Value) : Except Fault ProofInputs :=
  match path with
  | .text path => do
    let cs ← w.files.readText w.directories path
    proofInputs (← Json.read cs (some w.nesting))
  | v => .error (.mistyped v.kind)

/-- The line about a call that was built. -/
def callLine (last new : Value) (call : UnsignedCall) : Text :=
  "🧾 verifyBatchesTrustedAggregator [" ++ last.shown ++ ", " ++ new.shown ++ "] -> " ++
    call.recipient.shown ++ " (" ++ Text.natural call.data.length ++ " bytes calldata, not sent)"

/-- The document about a call that verifies a range of batches. -/
def callDocument (w : Surroundings) (s : Settings) (inputs last new beneficiary : Value) :
    Traced Value := do
  let inputs ← readInputs w inputs
  let contracts ← openChain w s
  let builder : Builder := ⟨.ofAddress contracts.manager, s.rollup, s.l1Chain⟩
  let call ← builder.build w.key ⟨last, new, inputs, beneficiary⟩
  Traced.emit (.status (callLine last new call))
  pure (.record [("to", call.recipient), ("data", .text (Hex.writeMarked call.data))])

/-- Records a range in a database: the table is created, the range is added, and both are committed
together with what the first left open; a failure rolls back. -/
def recordIn (c : Store.Connection) (first last : Value) :
    Store.Connection × Except Fault Unit :=
  let created := Ledger.default.createSchema .connection c
  match created.2 with
  | .error f => (created.1.rollback, .error f)
  | .ok () =>
    let added := Ledger.default.add .connection created.1 first last
    match added.2 with
    | .error f => (added.1.rollback, .error f)
    | .ok () => added.1.commit

/-- The line about a range that was recorded. -/
def sequenceLine (first last : Value) : Text :=
  "📚 Recorded sequence [" ++ first.shown ++ ", " ++ last.shown ++ "]"

/-- The path of the ledger: the one given, unless it is empty. -/
def ledgerPath (s : Settings) (db : Option Value) : Text :=
  match db with
  | some v => if v.isUnset then s.sequenceDb.shown else v.shown
  | none => s.sequenceDb.shown

/-- The document about a range that was recorded. -/
def sequenceDocument (first last : Value) : Traced Value := do
  Traced.emit (.status (sequenceLine first last))
  pure (.record [("fromBatchNumber", first), ("toBatchNumber", last)])

/-- Records a range of batches in a file. -/
def recordSequence (ds : Directories) (fs : Files) (path : Text) (first last : Value) : Work :=
  match fs.openDatabase ds path with
  | .error f => ⟨Traced.fail f, fs⟩
  | .ok (fs, opened) =>
    match opened.connection with
    | .error f => ⟨Traced.fail f, fs⟩
    | .ok c =>
      let (c, r) := recordIn c first last
      let fs := fs.closeDatabase opened c.committed
      match r with
      | .error f => ⟨Traced.fail f, fs⟩
      | .ok () => ⟨sequenceDocument first last, fs⟩

/-- Warns about a place of the node that was never filled in, and checks the settings. -/
def precheck (s : Settings) : Traced Unit := do
  if isPlaceholder s.rpcUrl.shown then Traced.emit (.status placeholderLine)
  s.validate

/-- Carries out a command. -/
def Invocation.work (i : Invocation) (w : Surroundings) : Work :=
  match i.command with
  | .state batch => ⟨do precheck i.settings; stateDocument w i.settings batch, w.files⟩
  | .buildVerify inputs last new beneficiary =>
    ⟨do precheck i.settings; callDocument w i.settings inputs last new beneficiary, w.files⟩
  | .recordSequence first last db =>
    recordSequence w.directories w.files (ledgerPath i.settings db) first last

/-- The layout of the document. -/
def Invocation.layout (i : Invocation) : Json.Layout :=
  if i.isPretty then .pretty else .compact

/-- What a run leaves behind that carries out a command. -/
def Invocation.outcome (i : Invocation) (w : Surroundings) : Outcome :=
  let work := i.work w
  let lines := errorLines w.stamp i.isDebug work.document.events
  match work.document.result >>= Json.print i.layout with
  | .ok text => ⟨.success, text ++ "\n", lines, work.document.events, work.files⟩
  | .error f =>
    if f.isExpected then ⟨.failure, "", lines ++ failureLine f, work.document.events, work.files⟩
    else ⟨.escape f, "", lines, work.document.events, work.files⟩

/-- A run of the program. -/
def run (w : Surroundings) (arguments : List Text) : Outcome :=
  let halted (e : Ending) : Outcome := ⟨e, "", "", [], w.files⟩
  let settings : Except Fault (Defaults × Settings) := do
    let d ← Defaults.ofEnvironment w.environment
    let s ← Settings.ofEnvironment d w.environment
    pure (d, s)
  match settings with
  | .error f => halted (.escape f)
  | .ok (d, s) =>
    match Invocation.ofArguments d s arguments with
    | .error .help => halted .help
    | .error (.usage program message) => halted (.usage program message)
    | .ok i => i.outcome w

/-- The rows of the ledger in a file, which is made if it is not there. -/
def ledgerRows (fs : Files) (path : Text) (ds : Directories := {}) :
    Files × Except Fault (List Store.Row) :=
  match fs.openDatabase ds path with
  | .error f => (fs, .error f)
  | .ok (fs, opened) =>
    match opened.connection with
    | .error f => (fs, .error f)
    | .ok c => (fs, (Ledger.default.rows c).2)

end BatchFrontier.CommandLine
