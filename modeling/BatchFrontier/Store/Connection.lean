import BatchFrontier.Store.Database

/-!
# Connections to a database

A command is carried out in four steps: its text is read, a transaction opens if it writes a row,
its parameters are taken, and it is run. A transaction stays open, also when a later step fails,
until it is committed or rolled back; what is done outside of a transaction is committed at once.

A text is checked against the tables when it is read, unless it was read lately: then only the run
shows that its table is gone. Functions that read like tables keep the names under which the
connection met them first.

A transaction in which the schema did not read back is damaged: it can still be read from, but it
takes no more writing and cannot be committed. Whether a text writes is understood from the tables
when the text is read and run. A damaged transaction asks no further if the text was understood to
write.
-/

namespace BatchFrontier.Store

/-- A connection to a database. -/
structure Connection where
  /-- What is committed. -/
  committed : Database
  /-- The work of the transaction, if one is open. -/
  pending : Option Database
  /-- Why nothing can be written, if nothing can. -/
  barrier : Option Fault
  /-- The names of the functions that were met. -/
  known : List String
  /-- The texts that were read lately, the last one first. -/
  recent : List String
  /-- The texts that write, as they were understood last. -/
  writing : List String
  /-- Whether the transaction made a table. -/
  isAltered : Bool
  /-- Whether the transaction is damaged. -/
  isDamaged : Bool
  /-- Why the database refused what it was asked last, if it did. -/
  lastFailure : Option Fault
  deriving DecidableEq, Repr

namespace Connection

/-- A new connection to a database that there may be a barrier against writing to. -/
def guarded (d : Database) (barrier : Option Fault) : Connection :=
  ⟨d, none, barrier, Function.builtin, [], [], false, false, none⟩

/-- A new connection to a database. -/
def ofDatabase (d : Database) : Connection := guarded d none

/-- What reads and writes work on. -/
def working (c : Connection) : Database := c.pending.getD c.committed

/-- Whether a transaction is open. -/
def inTransaction (c : Connection) : Bool := c.pending.isSome

/-- Refuses what was asked. -/
def refuse {α : Type} (c : Connection) (f : Fault) : Connection × Except BatchFrontier.Fault α :=
  ({ c with lastFailure := some f }, .error (.storage f))

/-- Drops the work since the last commit. If a table goes with it, all texts are understood anew. -/
def rollback (c : Connection) : Connection :=
  match c.pending with
  | some _ =>
    { c with
      pending := none
      writing := if c.isAltered then [] else c.writing
      isAltered := false
      isDamaged := false
      lastFailure := none }
  | none => c

/-- Makes the work permanent, or drops it if the transaction is damaged. -/
def commit (c : Connection) : Connection × Except BatchFrontier.Fault Unit :=
  match c.pending with
  | some d =>
    if c.isDamaged then c.rollback.refuse .malformed
    else
      ({ c with committed := d, pending := none, isAltered := false, lastFailure := none }, .ok ())
  | none => (c, .ok ())

/-- Opens a transaction unless one is open. -/
def begin (c : Connection) : Connection :=
  match c.pending with
  | some _ => c
  | none => { c with pending := some c.committed, lastFailure := none }

/-- The connection with another database to work on, after the database did what it was asked. -/
def keep (c : Connection) (d : Database) : Connection :=
  match c.pending with
  | some _ => { c with pending := some d, lastFailure := none }
  | none => { c with committed := d, lastFailure := none }

/-- How many texts are remembered. -/
def memory : Nat := 128

/-- Remembers a text. -/
def remember (c : Connection) (text : String) : Connection :=
  { c with recent := (text :: c.recent.erase text).take memory }

/-- The connection after a name was looked up that may be that of a function. -/
def meet (c : Connection) (command : Command) : Connection :=
  if command.verb ≠ .create ∧ c.working.isFunction command.table then
    { c with known := Function.meet c.known command.table.table }
  else c

/-- Understands a text from the tables as they are. -/
def understand (c : Connection) (text : String) (command : Command) : Connection :=
  let others := c.writing.erase text
  { c with writing := if c.working.isWrittenBy c.known command then text :: others else others }

/-- Why a text cannot be carried out that was understood to write, if it cannot. -/
def obstacle? (c : Connection) (text : String) : Option Fault :=
  if text ∉ c.writing then none
  else if c.isDamaged then some .malformed
  else c.barrier

/-- The connection when the text of a command is about to make a table. All other texts are
understood anew if the table is temporary. -/
def making (c : Connection) (text : String) (command : Command) : Connection :=
  if command.verb ≠ .create then c
  else
    match c.working.missingIn? command.table with
    | none => c
    | some s =>
      { c with
        writing := if s = .temp then [text] else c.writing
        isAltered := c.inTransaction }

/-- The connection after the database refused a command. -/
def shaken (c : Connection) : Fault → Connection
  | .malformedSchema _ => { c with isAltered := false, isDamaged := c.inTransaction }
  | _ => c

/-- Reads the text of a command. -/
def prepare (c : Connection) (text : String) : Connection × Except BatchFrontier.Fault Command :=
  match Command.ofText text with
  | .error f => c.refuse f
  | .ok command =>
    if text ∈ c.recent then (c.remember text, .ok command)
    else
      let c := c.meet command
      match c.working.check c.known command with
      | .error f => c.refuse f
      | .ok () =>
        ({ (c.remember text).understand text command with lastFailure := none }, .ok command)

/-- Takes parameters. If the first of them has no cell, a failure that the database still remembers
is reported in its place. -/
def bind (c : Connection) (parameters : List Value) :
    Connection × Except BatchFrontier.Fault (List Cell) :=
  match parameters with
  | [] => (c, .ok [])
  | v :: vs =>
    match Cell.ofValue 1 v with
    | .error f => (c, .error (c.lastFailure.elim f .storage))
    | .ok cell => ({ c with lastFailure := none }, (Cell.ofValues 2 vs).map (cell :: ·))

/-- Runs the command of a text, and gives the rows that it reads. -/
def run (c : Connection) (text : String) (command : Command) (cells : List Cell) :
    Connection × Except BatchFrontier.Fault (List Row) :=
  let isSettled := c.isDamaged && c.writing.contains text
  let c := if isSettled then c else (c.meet command).understand text command
  match c.obstacle? text with
  | some f => c.refuse f
  | none =>
    let c := c.making text command
    match c.working.run c.known command cells with
    | .error f => (c.shaken f).refuse f
    | .ok (d, rows) => (c.keep d, .ok rows)

/-- Carries out the command of a text with its parameters, and gives the rows that it reads. -/
def execute (c : Connection) (text : String) (parameters : List Value) :
    Connection × Except BatchFrontier.Fault (List Row) :=
  match c.prepare text with
  | (c, .error f) => (c, .error f)
  | (c, .ok command) =>
    match (if command.verb = .upsert then c.begin else c).bind parameters with
    | (c, .error f) => (c, .error f)
    | (c, .ok cells) => c.run text command cells

end Connection

end BatchFrontier.Store
