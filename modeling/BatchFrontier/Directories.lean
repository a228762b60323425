import BatchFrontier.FileName

/-!
# Directories

Where a run stands among the directories around it. A place is told by the names that lead to it
from the root. The working directory is there, and others may be; new files can be made in all of
them. With a directory all that are above it are there.
-/

namespace BatchFrontier

/-- The names that lead from the root to a directory or a file. -/
abbrev Trail := List FileName

/-- The directories that a run finds. -/
structure Directories where
  /-- The working directory. -/
  working : Trail := ["tmp", "surrounding"]
  /-- The other directories that are there and take new files. -/
  others : List Trail := []
  deriving DecidableEq, Repr

namespace Directories

/-- The number of bytes of a trail, each name with a slash before it. -/
def size (trail : Trail) : Nat := trail.foldl (fun n name => n + 1 + name.size) 0

/-- The path of a trail from the root. -/
def path (trail : Trail) : FileName :=
  ⟨trail.flatMap fun name => FileName.slash :: name.bytes⟩

/-- Whether new files can be made in a directory. -/
def takesFiles (ds : Directories) (trail : Trail) : Bool :=
  trail == ds.working || ds.others.contains trail

/-- Whether a directory is there. -/
def holds (ds : Directories) (trail : Trail) : Bool :=
  (ds.working :: ds.others).any fun other => trail.isPrefixOf other

/-- The name under which the file at the end of a trail is kept: in the working directory its own
name, elsewhere its path. -/
def nameOf (ds : Directories) (trail : Trail) : FileName :=
  if trail.dropLast = ds.working then trail.getLastD "" else path trail

/-- Where a path begins. -/
def start (ds : Directories) (p : FileName) : Trail := if p.isAbsolute then [] else ds.working

end Directories

end BatchFrontier
