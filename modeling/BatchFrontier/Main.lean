import BatchFrontier.CommandLine.Run
import BatchFrontier.Store.Snapshot

/-!
# The program

Reads arguments, environment and files, carries out a run, and writes what the run leaves behind. No
transport is bound here: every node is out of reach, and commands that need one say so. Ledgers are
kept as snapshots.
-/

namespace BatchFrontier.Program

open CommandLine

/-- The variables that settings are read from. -/
def variableNames : List String :=
  ["RPC_URL", "L1_CHAIN_ID", "ROLLUP_ID", "SEQUENCE_DB", "ROLLUP_MANAGER_ADDRESS",
   "LEGACY_ROLLUP_ADDRESS"]

/-- The variables that are set. -/
def readEnvironment : IO Environment := do
  let found ← variableNames.mapM fun name => do
    return (← IO.getEnv name).map fun v => (.ofString name, .ofString v)
  return found.filterMap id

/-- What bytes hold: a database if they are a snapshot of one. -/
def contentOf (bs : List UInt8) : Content :=
  match (Utf8.decode bs).toOption.bind Store.Database.ofSnapshot? with
  | some d => .database d
  | none => .bytes bs

/-- The names of files that arguments may hold: an argument may be one, and so may what follows the
first equals sign in it. -/
def namesIn (arguments : List String) : List String :=
  arguments.flatMap fun a => [a, String.intercalate "=" ((a.splitOn "=").drop 1)]

/-- The files among some names. -/
def readFiles (names : List String) : IO Files := do
  let found ← names.eraseDups.mapM fun (name : String) => do
    try
      let bytes ← IO.FS.readBinFile name
      return some (.ofString name, contentOf bytes.toList)
    catch _ => return none
  return found.filterMap id

/-- Whether a directory is there. -/
def isThere (trail : Trail) : IO Bool := do
  let some path := (Directories.path trail).text.toString? | return false
  try
    discard <| IO.FS.realPath (path ++ "/.")
    return true
  catch _ => return false

/-- The working directory, and the directories that are there among those of some names. -/
def readDirectories (names : List String) : IO Directories := do
  let here := FileName.ofString (toString (← IO.currentDir))
  let ds : Directories := { working := here.steps.filter Files.isStep }
  let parents := names.filterMap fun name =>
    let path := FileName.ofString name
    (path.steps.foldlM (Files.step ds []) (ds.start path)).map List.dropLast
  return { ds with others := ← parents.eraseDups.filterM isThere }

/-- Writes the databases among the files that are new or changed. -/
def writeFiles (before after : Files) : IO Unit :=
  for (name, content) in after do
    match content with
    | .database d =>
      unless before.get? name = some content do
        if let some path := name.text.toString? then IO.FS.writeFile path d.snapshot
    | .bytes _ => pure ()

/-- Carries out a run and gives its exit code. -/
def carryOut (arguments : List String) : IO UInt32 := do
  let environment ← readEnvironment
  let ledger := (environment.get? "SEQUENCE_DB").getD Defaults.builtin.sequenceDb
  let names := ledger.toString?.toList ++ namesIn arguments
  let files ← readFiles names
  let directories ← readDirectories names
  let outcome := run
    { environment, files, directories, node := ⟨[], []⟩, clock := ⟨[]⟩, now := 0, stamp := "",
      key := .error (.unreachable (.text "")) } (arguments.map .ofString)
  writeFiles files outcome.files
  IO.print outcome.output
  IO.eprint outcome.errorOutput.visible
  match outcome.ending with
  | .success | .help => return 0
  | .failure => return 1
  | .usage program message =>
    IO.eprintln (program ++ ": error: " ++ message.visible)
    return 2
  | .escape fault =>
    IO.eprintln fault.message.visible
    return 1

end BatchFrontier.Program

/-- The program. -/
def main (arguments : List String) : IO UInt32 := BatchFrontier.Program.carryOut arguments
