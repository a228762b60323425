import BatchFrontier.Text.Decimal

/-!
# Failures of the store

Why the database refuses a statement, and how it says so.
-/

namespace BatchFrontier.Store

/-- What a location asks for in vain. -/
inductive Demand where
  /-- Another computer. -/
  | authority
  /-- An access that there is not. -/
  | access
  /-- More access than it left before. -/
  | moreAccess
  /-- A kind of cache that there is not. -/
  | cache
  /-- A file system that there is not. -/
  | fileSystem
  deriving DecidableEq, Repr

/-- What the database says of a demand before its name. -/
def Demand.wording : Demand → String
  | .authority => "invalid uri authority: "
  | .access => "no such access mode: "
  | .moreAccess => "access mode not allowed: "
  | .cache => "no such cache mode: "
  | .fileSystem => "no such vfs: "

/-- A failure of the database. -/
inductive Fault where
  /-- There is no table of this name, written as in the statement. -/
  | noSuchTable (name : String)
  /-- There is no schema of this name to create a table in. -/
  | unknownSchema (name : String)
  /-- A word stands where the grammar does not allow it. -/
  | nearWord (word : String)
  /-- The name is set aside for the database itself. -/
  | reservedName (name : String)
  /-- The table may only be read. -/
  | protectedTable (name : String)
  /-- The table has no such column. -/
  | noSuchColumn (name : String)
  /-- The schema text of a new table does not read back. -/
  | malformedSchema (name : String)
  /-- The schema did not read back before, and nothing is written after that. -/
  | malformed
  /-- A column that must hold a value was given none. -/
  | missingValue (table column : String)
  /-- A parameter, counted from one, has a kind that is not stored. -/
  | unsupportedParameter (position : Nat) (kind : String)
  /-- A command with some places for parameters was given another number of them. -/
  | parameterCount (places given : Nat)
  /-- A function that reads like a table was named without the argument it needs. -/
  | missingArgument (name : String)
  /-- A location asks for something in vain. -/
  | unmet (demand : Demand) (name : String)
  /-- The database may only be read. -/
  | readOnly
  /-- The disk does not give what was asked of it. -/
  | diskFailure
  /-- The file cannot be opened or made. -/
  | cannotOpen
  /-- The file holds something else. -/
  | notDatabase
  deriving DecidableEq, Repr

/-- What the database says. -/
def Fault.message : Fault → String
  | .noSuchTable name => "no such table: " ++ name
  | .unknownSchema name => "unknown database " ++ name
  | .nearWord word => "near \"" ++ word ++ "\": syntax error"
  | .reservedName name => "object name reserved for internal use: " ++ name
  | .protectedTable name => "table " ++ name ++ " may not be modified"
  | .noSuchColumn name => "no such column: " ++ name
  | .malformedSchema name =>
    "malformed database schema (" ++ name ++ ") - near \"(\": syntax error"
  | .malformed => "database disk image is malformed"
  | .missingValue table column => "NOT NULL constraint failed: " ++ table ++ "." ++ column
  | .unsupportedParameter position kind =>
    "Error binding parameter " ++ Text.natural position ++ ": type '" ++ kind ++
      "' is not supported"
  | .parameterCount places given =>
    "Incorrect number of bindings supplied. The current statement uses " ++ Text.natural places ++
      ", and there are " ++ Text.natural given ++ " supplied."
  | .missingArgument name => "invalid arguments to " ++ name ++ " constructor"
  | .unmet demand name => demand.wording ++ name
  | .readOnly => "attempt to write a readonly database"
  | .diskFailure => "disk I/O error"
  | .cannotOpen => "unable to open database file"
  | .notDatabase => "file is not a database"

end BatchFrontier.Store
