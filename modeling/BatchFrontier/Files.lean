import BatchFrontier.Directories
import BatchFrontier.Store.Connection
import BatchFrontier.Store.Location

/-!
# Files

The files that a run finds, each with bytes or a database in it: those of the working directory by
their names, others by their paths. Reading a file gives its text; opening a database makes the file
if there is none and its directory takes new files. A path is given as a text, which has to be the
text of a name.
-/

namespace BatchFrontier

/-- What a file holds. -/
inductive Content where
  | bytes (bs : List UInt8)
  | database (d : Store.Database)
  deriving DecidableEq, Repr

/-- The files around a run. -/
abbrev Files := List (FileName × Content)

namespace Files

/-- What a path leads to. -/
inductive Target where
  | file (name : FileName)
  | directory
  /-- To the device that is always empty. -/
  | emptyDevice
  | missing
  /-- Through a file, as if it were a directory. -/
  | beyond
  /-- Nowhere, because the path or a name in it is too long. -/
  | tooLong
  deriving DecidableEq, Repr

/-- The content of a file. -/
def get? (fs : Files) (name : FileName) : Option Content :=
  (fs.find? fun f => f.1 == name).map (·.2)

/-- The files with a new content for one of them. -/
def put (fs : Files) (name : FileName) (c : Content) : Files :=
  if (fs.get? name).isSome then fs.map fun f => if f.1 == name then (name, c) else f
  else fs ++ [(name, c)]

/-- The name that a path written as a text has. -/
def nameOf (path : Text) : Except Fault FileName :=
  match FileName.ofText path with
  | .error gap => .error (.notUtf8 gap)
  | .ok name => if name.holdsZero then .error .nullInPath else .ok name

/-- The number of bytes that a path stays under. -/
def pathLimit : Nat := 4096

/-- The number of bytes that a name may have. -/
def nameLimit : Nat := 255

/-- The step that stays in a directory. -/
def here : FileName := "."

/-- The step to the directory above. -/
def above : FileName := ".."

/-- Whether a step leads somewhere else. -/
def isStep (s : FileName) : Bool := s != "" && s != here

/-- The directories that every system has at its root. -/
def systemDirectories : List FileName :=
  ["bin", "boot", "dev", "etc", "home", "lib", "media", "mnt", "opt", "proc", "root", "run", "sbin",
   "srv", "sys", "tmp", "usr", "var"]

/-- Whether a trail ends at a directory. -/
def isDirectory (ds : Directories) (trail : Trail) : Bool :=
  ds.holds trail ||
    match trail with
    | [name] => systemDirectories.contains name
    | _ => false

/-- Where the device that is always empty is. -/
def emptyDevice : Trail := ["dev", "null"]

/-- What some steps lead to from a directory. -/
def walk (ds : Directories) (fs : Files) (trail : Trail) : List FileName → Target
  | [] => .directory
  | s :: rest =>
    if isStep s = false then walk ds fs trail rest
    else if s = above then walk ds fs trail.dropLast rest
    else if nameLimit < s.size then .tooLong
    else
      let next := trail ++ [s]
      if isDirectory ds next then walk ds fs next rest
      else if next = emptyDevice then if rest = [] then .emptyDevice else .beyond
      else if (fs.get? (ds.nameOf next)).isNone then .missing
      else if rest = [] then .file (ds.nameOf next)
      else .beyond

/-- What a path leads to. A file is found under its own name in any case. -/
def target (ds : Directories) (fs : Files) (path : FileName) : Target :=
  if pathLimit ≤ path.size then .tooLong
  else if path = "" then .missing
  else if (fs.get? path).isSome then .file path
  else walk ds fs (ds.start path) path.steps

/-- Where the bytes of a database with a table first fail to be text: in the head of its first page,
which follows the 100 bytes of the head of the file. -/
def databaseDefect : Utf8.Defect := ⟨102, 103, 0xF8, .start⟩

/-- The bytes of a file. A database is not read in this way. -/
def read (ds : Directories) (fs : Files) (path : Text) : Except Fault (List UInt8) := do
  match fs.target ds (← nameOf path) with
  | .directory => .error (.file .isDirectory path)
  | .emptyDevice => .ok []
  | .missing => .error (.file .notFound path)
  | .beyond => .error (.file .notDirectory path)
  | .tooLong => .error (.file .nameTooLong path)
  | .file name =>
    match fs.get? name with
    | some (.bytes bs) => .ok bs
    | some (.database d) =>
      if d = .empty then .ok [] else .error (.utf8 databaseDefect)
    | none => .error (.file .notFound path)

/-- A text with every end of line written as a single newline. -/
def joinLines : List Char → List Char
  | '\r' :: '\n' :: rest => '\n' :: joinLines rest
  | '\r' :: rest => '\n' :: joinLines rest
  | c :: rest => c :: joinLines rest
  | [] => []

/-- The text of a file. -/
def readText (ds : Directories) (fs : Files) (path : Text) : Except Fault (List Char) := do
  match Utf8.decode (← fs.read ds path) with
  | .ok cs => .ok (joinLines cs)
  | .error d => .error (.utf8 d)

/-- A database that is open: where it is kept, and a connection to it, unless the file holds
something else. -/
structure OpenDatabase where
  /-- The file, or none for a database that is forgotten when it is closed. -/
  file : Option FileName
  connection : Except Fault Store.Connection

/-- Where the path of a database leads. -/
inductive Place where
  /-- To a file, which need not be there. -/
  | file (name : FileName)
  | directory
  /-- To no file, in a directory that is not there or takes none. -/
  | missing
  /-- Nowhere: to the root of all directories, to a name that is too long, or through a file. -/
  | blocked
  deriving DecidableEq, Repr

/-- The number of bytes that the path of a database stays under while it is looked for. -/
def routeLimit : Nat := 512

/-- The number of bytes that the name of a file gets longer by for the file beside it in which a
database notes its changes. -/
def journalMark : Nat := 8

/-- The trail after one more step, unless the step is blocked: by a path that gets too long, by a
name that is too long in a directory that is there, or by a file that it would go through. -/
def step (ds : Directories) (fs : Files) (trail : Trail) (s : FileName) : Option Trail :=
  if isStep s = false then some trail
  else if s = above then some trail.dropLast
  else if routeLimit ≤ Directories.size trail + 1 + s.size then none
  else if ds.holds trail = true ∧ nameLimit < s.size then none
  else if (fs.get? (ds.nameOf trail)).isSome then none
  else some (trail ++ [s])

/-- Where a trail leads. There has to be room for the mark of the file of changes. -/
def placeAt (ds : Directories) (fs : Files) (trail : Trail) : Place :=
  if trail = [] ∨ routeLimit < Directories.size trail + journalMark then .blocked
  else if ds.holds trail then .directory
  else if (fs.get? (ds.nameOf trail)).isSome ∨ ds.takesFiles trail.dropLast = true then
    .file (ds.nameOf trail)
  else .missing

/-- Where the path of a database leads. Steps that are taken back count only as far as they are
blocked, so a path need not lead through directories that are there. -/
def place (ds : Directories) (fs : Files) (path : FileName) : Place :=
  if (fs.get? path).isSome then .file path
  else
    match path.steps.foldlM (step ds fs) (ds.start path) with
    | none => .blocked
    | some trail => placeAt ds fs trail

/-- Why a database cannot be written, if it cannot: it may only be read, or the file for its changes
would have too long a name. -/
def barrier (l : Store.Location) (name : FileName) : Option Store.Fault :=
  if l.isReadOnly then some .readOnly
  else if nameLimit < name.last.size + journalMark then some .cannotOpen
  else none

/-- Whether a file whose permissions are asked for is not there. -/
def lacksModel (ds : Directories) (fs : Files) (l : Store.Location) : Bool :=
  match (l.parameter "modeof").map fun value => fs.target ds ⟨value⟩ with
  | none | some .directory | some .emptyDevice => false
  | some (.file name) => (fs.get? name).isNone
  | some _ => true

/-- Opens the database in a file, and makes the file if there is none. A file of at most one byte
counts as an empty database. -/
def openFile (fs : Files) (l : Store.Location) (name : FileName) :
    Except Fault (Files × OpenDatabase) :=
  let opened (d : Store.Database) : OpenDatabase :=
    ⟨some name, .ok (.guarded d (barrier l name))⟩
  match fs.get? name with
  | some (.database d) => .ok (fs, opened d)
  | some (.bytes []) | some (.bytes [_]) => .ok (fs, opened .empty)
  | some (.bytes _) => .ok (fs, ⟨some name, .error (.storage .notDatabase)⟩)
  | none =>
    if l.access = .create then .ok (fs.put name (.database .empty), opened .empty)
    else .error (.storage .cannotOpen)

/-- Opens a database at a place. Of a directory only the reading fails. -/
def openPlace (ds : Directories) (fs : Files) (l : Store.Location) :
    Except Fault (Files × OpenDatabase) :=
  match fs.place ds l.path with
  | .blocked => .error (.storage .cannotOpen)
  | place =>
    if fs.lacksModel ds l then .error (.storage .diskFailure)
    else
      match place with
      | .file name => fs.openFile l name
      | .directory =>
        if l.access = .readOnly then .ok (fs, ⟨none, .error (.storage .diskFailure)⟩)
        else .error (.storage .cannotOpen)
      | _ => .error (.storage .cannotOpen)

/-- The fault of a location that asks for something in vain. The name of that has to be a text. -/
def unmetFault (u : Store.Unmet) : Fault :=
  match Utf8.decode u.name with
  | .ok cs => .storage (.unmet u.demand (String.ofList cs))
  | .error d =>
    let before := u.demand.wording.utf8ByteSize
    .utf8 { d with first := before + d.first, stop := before + d.stop }

/-- Opens a database. -/
def openDatabase (ds : Directories) (fs : Files) (location : Text) :
    Except Fault (Files × OpenDatabase) := do
  match Store.Location.ofName (← nameOf location) with
  | .error u => .error (unmetFault u)
  | .ok l =>
    if l.isPassing then
      let barrier := if l.isReadOnly then some .readOnly else none
      .ok (fs, ⟨none, .ok (.guarded .empty barrier)⟩)
    else fs.openPlace ds l

/-- The files after a database is closed with what was committed to it. A file is left alone if
nothing was; temporary tables are forgotten. -/
def closeDatabase (fs : Files) (o : OpenDatabase) (committed : Store.Database) : Files :=
  match o.file with
  | some name =>
    if committed = .empty then fs else fs.put name (.database { committed with temp := [] })
  | none => fs

end Files

end BatchFrontier
