import EnergyAudit.Files.Listing

/-!
# File trees

A file tree holds files, directories, links to other paths, and what is none of these, such as pipes
and devices.  A path is followed from the root or from the directory in which the program works, one
name after another.

## Main definitions

* `Entry`, `FileTree` — a tree and where the program works in it.
* `FileTree.follow` — where a path leads.
* `FileTree.isDirectory`, `FileTree.readText`, `FileTree.listing` — what is found there.
* `FileTree.writeText`, `FileTree.makeDirectory` — changes of a tree.
-/

namespace EnergyAudit.Files

/-- What a name in a directory stands for. -/
inductive Entry where
  | file (content : ByteArray)
  | directory (entries : List (String × Entry))
  | link (target : String)
  /-- A pipe, a socket or a device, with what comes of reading it. -/
  | special (reading : Except FileFault ByteArray)

instance : Inhabited Entry := ⟨.directory []⟩

namespace Entry

/-- The entry that some names lead to. -/
def find? : List String → Entry → Option Entry
  | [], e => some e
  | name :: names, .directory entries => (entries.lookup name).bind (find? names)
  | _ :: _, _ => none

/-- Puts an entry where some names lead to, with the directories that are lacking. -/
def put (new : Entry) : List String → Entry → Entry
  | [], _ => new
  | name :: names, .directory entries =>
    let inner := put new names ((entries.lookup name).getD (.directory []))
    .directory ((name, inner) :: entries.filter (·.1 != name))
  | name :: names, _ => .directory [(name, put new names (.directory []))]

/-- What comes of reading an entry. -/
def read : Entry → Except FileFault ByteArray
  | .file content => .ok content
  | .special reading => reading
  | _ => .error .isDirectory

mutual

/-- How many entries there are. -/
def size : Entry → Nat
  | .directory entries => sizeOfAll entries + 1
  | _ => 1

/-- How many entries there are in a directory. -/
def sizeOfAll : List (String × Entry) → Nat
  | [] => 0
  | (_, e) :: entries => e.size + sizeOfAll entries

end

end Entry

/-- A tree, and the names that lead to where the program works. -/
structure FileTree where
  root : Entry
  workplace : List String

/-- Where a path leads.  Names of directories are given innermost first. -/
inductive Arrival where
  | found (names : List String)
  /-- There is no such name in a directory; some steps were still to be made. -/
  | missing (directory : List String) (name : String) (rest : List String)

/-- The steps of a path.  A slash at its end is a step of its own. -/
def steps (path : String) : List String :=
  let pieces := pieces path
  if path.endsWith "/" && !pieces.isEmpty then pieces ++ ["."] else pieces

/-- How many links are followed in a path. -/
def linkLimit : Nat := 40

/-- The greatest number of bytes of a name. -/
def nameLimit : Nat := 255

namespace FileTree

variable (t : FileTree)

/-- The entry that names lead to, given innermost first. -/
def entry? (names : List String) : Option Entry := t.root.find? names.reverse

/-- Follows steps from a directory.  A link at the end may be left as it is. -/
def followFrom (followsLast : Bool) (links : Nat) (here : List String) (steps : List String) :
    Except FileFault Arrival :=
  match steps with
  | [] => .ok (.found here)
  | step :: rest =>
    match t.entry? here with
    | some (.directory entries) =>
      if step == "." then followFrom followsLast links here rest
      else if step == ".." then followFrom followsLast links (here.drop 1) rest
      else if nameLimit < step.utf8ByteSize then .error .nameTooLong
      else match entries.lookup step with
        | none => .ok (.missing here step rest)
        | some (.link target) =>
          if rest.isEmpty && !followsLast then .ok (.found (step :: here))
          else match links with
            | 0 => .error .tooManyLinks
            | links + 1 =>
              followFrom followsLast links (if isAbsolute target then [] else here)
                (Files.steps target ++ rest)
        | some _ => followFrom followsLast links (step :: here) rest
    | some _ => .error .notDirectory
    | none => .error .notFound
termination_by (links, steps.length)

/-- Follows a path. -/
def follow (followsLast : Bool) (path : String) : Except FileFault Arrival :=
  if path.isEmpty then .error .notFound
  else if path.contains '\x00' then
    .error (.other "file name contained an unexpected NUL byte")
  else
    t.followFrom followsLast linkLimit (if isAbsolute path then [] else t.workplace.reverse)
      (steps path)

/-- What a path leads to, which has to be there: the names, innermost first, and the entry. -/
def arrive (path : String) : Except FileFault (List String × Entry) := do
  match ← t.follow true path with
  | .found names =>
    match t.entry? names with
    | some e => return (names, e)
    | none => throw .notFound
  | .missing _ _ _ => throw .notFound

/-! ### What is found -/

/-- Whether a path leads to a directory; it has to lead somewhere. -/
def isDirectory (path : String) : Except FileFault Bool :=
  (t.arrive path).map fun (_, e) => match e with
    | .directory _ => true
    | _ => false

/-- Whether a path leads somewhere. -/
def isThere (path : String) : Bool := (t.arrive path).toBool

/-- The text of a file. -/
def readText (path : String) : Except FileFault String := do
  match String.fromUTF8? (← (← t.arrive path).2.read) with
  | some text => return text
  | none => throw .notText

/-- What is found under a path.  The directories around it are given with their paths, innermost
first: a link must not lead back to one of them. -/
def listFrom : Nat → List (List String × String) → String → List String → Entry → Listing
  | 0, _, _, _, _ => .other
  | fuel + 1, around, path, names, e =>
    match e with
    | .file _ => .file
    | .special _ => .other
    | .directory entries =>
      let around := (names, path) :: around
      .directory (entries.map fun (name, inner) =>
        (name, listFrom fuel around (joinPath path name) (name :: names) inner))
    | .link _ =>
      match t.arrive path with
      | .error fault => .fault (.unreadable path fault)
      | .ok (target, .directory entries) =>
        match around.lookup target with
        | some ancestor => .fault (.loop path ancestor)
        | none => listFrom fuel around path target (.directory entries)
      | .ok (target, e) => listFrom fuel around path target e

/-- What is found under a path.  Every link leads to another directory than those around it, so
that the depth is limited. -/
def listing (path : String) : Listing :=
  match t.arrive path with
  | .error fault => .fault (.unreadable path fault)
  | .ok (names, e) => t.listFrom (2 * (t.root.size + 2) * (t.root.size + 2)) [] path names e

/-! ### Changes -/

/-- Puts an entry where names lead to, given innermost first. -/
def putAt (names : List String) (e : Entry) : FileTree :=
  { t with root := Entry.put e names.reverse t.root }

/-- Writes a file, which need not have been there. -/
def writeText (path text : String) : Except FileFault FileTree := do
  match ← t.follow true path with
  | .found names =>
    match t.entry? names with
    | some (.file _) => return t.putAt names (.file text.toUTF8)
    -- What is written to a device is not kept.
    | some (.special reading) => reading.map fun _ => t
    | _ => throw .isDirectory
  | .missing directory name [] => return t.putAt (name :: directory) (.file text.toUTF8)
  | .missing _ _ ["."] => throw .isDirectory
  | .missing _ _ _ => throw .notFound

/-- Makes a directory in one that is there. -/
def makeDirectory (path : String) : Except FileFault FileTree := do
  match ← t.follow false path with
  | .found _ => throw .alreadyThere
  | .missing directory name [] | .missing directory name ["."] =>
    return t.putAt (name :: directory) (.directory [])
  | .missing _ _ _ => throw .notFound

end FileTree

end EnergyAudit.Files
