import EnergyAudit.Files.Fault
import EnergyAudit.Files.Path

/-!
# What is found under a path

A listing shows everything under a path, with links followed.  Python files are collected from it in
the order of names; hidden directories, and some that hold what others have written, are passed
over.

## Main definitions

* `Listing` — what is found under a path.
* `isPassedOver` — directories that are not entered.
* `collect` — the Python files under a path.
-/

namespace EnergyAudit.Files

/-- What is found under a path, with links followed. -/
inductive Listing where
  | file
  /-- A pipe, a socket or a device. -/
  | other
  | directory (entries : List (String × Listing))
  | fault (fault : WalkFault)
deriving Inhabited

/-- Whether a directory is found. -/
def Listing.isDirectory : Listing → Bool
  | directory _ => true
  | _ => false

/-- The names of directories that are not entered. -/
def passedOverNames : List String :=
  ["__pycache__", "node_modules", "venv", "site-packages", "build", "dist"]

/-- Whether a directory with a name is not entered. -/
def isPassedOver (name : String) : Bool := name.startsWith "." || passedOverNames.contains name

/-- Whether a file is one of Python. -/
def isPythonFile (path : String) : Bool := extension? path == some "py"

/-- Some results one after another, up to the first fault. -/
def joinAll : List (Except WalkFault (List String)) → Except WalkFault (List String)
  | [] => .ok []
  | result :: results => do return (← result) ++ (← joinAll results)

/-- What was found under names, in the order of the names. -/
def inOrder {α : Type} (found : List (String × α)) : List α :=
  (found.mergeSort fun a b => !(b.1 < a.1)).map (·.2)

mutual

/-- The Python files under a path.  A directory below the path may be passed over. -/
def collect (path : String) : Listing → Except WalkFault (List String)
  | .file => .ok (if isPythonFile path then [path] else [])
  | .other => .ok []
  | .fault fault => .error fault
  | .directory entries => joinAll (inOrder (collectEntries path entries))

/-- The Python files under each entry of a directory. -/
def collectEntries (path : String) :
    List (String × Listing) → List (String × Except WalkFault (List String))
  | [] => []
  | (name, listing) :: entries =>
    let found :=
      if listing.isDirectory && isPassedOver name then .ok []
      else collect (joinPath path name) listing
    (name, found) :: collectEntries path entries

end

end EnergyAudit.Files
