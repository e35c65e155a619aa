/-!
# Directories

The directories to make before files can be written below a path.

## Main definitions

* `Directory.names`: the parts of a path that lead somewhere.
* `Directory.route`: the directories to make, outermost first.
-/

namespace Storyboard.Directory

/-- The parts of a path between its slashes. -/
def parts (path : String) : List String :=
  (path.toList.splitOn '/').map String.ofList

/-- The parts of a path that lead somewhere: an empty part or a single dot stays where it is. -/
def names (path : String) : List String :=
  (parts path).filter fun part => part ≠ "" ∧ part ≠ "."

/-- The slash that a path from the root starts with. -/
def root (path : String) : String :=
  if path.toList.head? = some '/' then "/" else ""

/-- The directories above a path, outermost first. -/
def above (path : String) : List String :=
  (List.range (names path).length).tail.map fun n =>
    root path ++ "/".intercalate ((names path).take n)

/-- The directories to make for a path, outermost first. The last one is the path as it is written:
a dot at its end names no directory to make, so what stands before the dot has to be there. -/
def route (path : String) : List String :=
  above path ++ [path]

end Storyboard.Directory
