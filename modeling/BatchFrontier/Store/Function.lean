import BatchFrontier.Store.Command

/-!
# Functions that read like tables

The database has functions of its own that a command can name in the place of a table. They have no
columns that the ledger asks for, and they cannot be written. A name stands for a function where no
table has it, whatever the schema; like all names it does not depend on case.
-/

namespace BatchFrontier.Store.Function

/-- The functions that a connection knows from the start. -/
def builtin : List String := ["dbstat", "fts3tokenize", "json_each", "json_tree", "sqlite_stmt"]

/-- The settings and properties of the database. For each there is a function that shows it. -/
def properties : List String :=
  ["analysis_limit", "application_id", "auto_vacuum", "automatic_index", "busy_timeout",
   "cache_size", "cache_spill", "cell_size_check", "checkpoint_fullfsync", "collation_list",
   "compile_options", "count_changes", "data_version", "database_list", "default_cache_size",
   "defer_foreign_keys", "empty_result_callbacks", "encoding", "foreign_key_check",
   "foreign_key_list", "foreign_keys", "freelist_count", "full_column_names", "fullfsync",
   "function_list", "hard_heap_limit", "ignore_check_constraints", "index_info", "index_list",
   "index_xinfo", "integrity_check", "journal_mode", "journal_size_limit", "legacy_alter_table",
   "locking_mode", "max_page_count", "module_list", "optimize", "page_count", "page_size",
   "pragma_list", "query_only", "quick_check", "read_uncommitted", "recursive_triggers",
   "reverse_unordered_selects", "schema_version", "secure_delete", "short_column_names",
   "soft_heap_limit", "synchronous", "table_info", "table_list", "table_xinfo", "temp_store",
   "threads", "trusted_schema", "user_version", "writable_schema"]

/-- What the name of a function that shows a property starts with. -/
def propertyMark : String := "pragma_"

/-- The function that cannot do without an argument, and so can never stand for a table. -/
def demanding : String := "fts4aux"

/-- Whether a name stands for a function. -/
def isName (name : String) : Bool :=
  builtin.contains (lowered name) || lowered name == demanding ||
    properties.any fun p => lowered name == propertyMark ++ p

/-- The name under which a function is known: the spelling that is met first. -/
def spelling (known : List String) (name : String) : String :=
  (known.find? fun k => lowered k == lowered name).getD name

/-- The functions that are known after a name was met. -/
def meet (known : List String) (name : String) : List String :=
  if known.any fun k => lowered k == lowered name then known else known ++ [name]

/-- Why a function is not written to. -/
def writeFault (known : List String) (name : String) : Fault :=
  if lowered name = demanding then .missingArgument demanding
  else .protectedTable (spelling known name)

/-- Why a column of a table is not read from a function. -/
def readFault (name column : String) : Fault :=
  if lowered name = demanding then .missingArgument demanding else .noSuchColumn column

example : isName "PRAGMA_user_version" = true ∧ isName "pragma_shrink_memory" = false := by
  decide +kernel

end BatchFrontier.Store.Function
