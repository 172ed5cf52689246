import EnergyAudit.Files.Tree

/-!
# Access to files

What a program asks of the files around it, in any setting that can answer.

## Main definitions

* `FileAccess` — the questions and the changes.
* `FileTree.access` — access to a tree that is kept in a state.
-/

namespace EnergyAudit.Files

/-- What a program asks of the files around it. -/
structure FileAccess (m : Type → Type) where
  /-- Whether a path leads to a directory; it has to lead somewhere. -/
  isDirectory : String → m (Except FileFault Bool)
  /-- Whether a path leads somewhere. -/
  isThere : String → m Bool
  /-- The text of a file. -/
  readText : String → m (Except FileFault String)
  /-- What is found under a path. -/
  listing : String → m Listing
  /-- Writes a file. -/
  writeText : String → String → m (Except FileFault Unit)
  /-- Makes a directory in one that is there. -/
  makeDirectory : String → m (Except FileFault Unit)

/-- A change of a tree that may fail. -/
def attempt (change : FileTree → Except FileFault FileTree) :
    StateM FileTree (Except FileFault Unit) := fun t =>
  match change t with
  | .ok t => (.ok (), t)
  | .error fault => (.error fault, t)

/-- Access to a tree that is kept in a state. -/
def FileTree.access : FileAccess (StateM FileTree) where
  isDirectory path := return (← get).isDirectory path
  isThere path := return (← get).isThere path
  readText path := return (← get).readText path
  listing path := return (← get).listing path
  writeText path text := attempt (·.writeText path text)
  makeDirectory path := attempt (·.makeDirectory path)

/-- Makes directories, each in the one before it, from the first of them that is lacking. -/
def makeDirectories {m : Type → Type} [Monad m] (fs : FileAccess m) (path : String) :
    m (Except FileFault Unit) :=
  go ((pathParts path).length + 1) path
where
  /-- Makes a directory, and those around it if they are lacking. -/
  go : Nat → String → m (Except FileFault Unit)
    | 0, _ => return .error .notFound
    | fuel + 1, path => do
      if path.isEmpty then return .ok ()
      match ← fs.makeDirectory path with
      | .ok () => return .ok ()
      | .error .notFound =>
        match parentPath? path with
        | none => return .error (.other "failed to create whole tree")
        | some parent =>
          match ← go fuel parent with
          | .error fault => return .error fault
          | .ok () => unlessThere path (← fs.makeDirectory path)
      | result => unlessThere path result
  /-- A fault does not count if the directory is there. -/
  unlessThere (path : String) (result : Except FileFault Unit) : m (Except FileFault Unit) := do
    match result with
    | .ok () => return .ok ()
    | .error fault =>
      match ← fs.isDirectory path with
      | .ok true => return .ok ()
      | _ => return .error fault

end EnergyAudit.Files
