/-!
# Paths

A path is a text whose parts are divided by slashes.  Paths are compared by their parts, so that
slashes too many and dots between them do not count.

## Main definitions

* `PathPart`, `pathParts` — the parts of a path.
* `isPathBefore` — the order of paths.
* `joinPath`, `parentPath?`, `extension?` — what paths are made of.
-/

namespace EnergyAudit.Files

/-- A part of a path. -/
inductive PathPart where
  /-- The slash at the start. -/
  | root
  /-- A dot at the start. -/
  | here
  /-- Two dots. -/
  | up
  | name (name : String)
deriving BEq, DecidableEq, Repr

/-- The texts between slashes, without empty ones. -/
def pieces (path : String) : List String :=
  ((path.splitOn "/").filter fun piece => !piece.isEmpty)

/-- Whether a path starts at the root. -/
def isAbsolute (path : String) : Bool := path.startsWith "/"

/-- The part that a text between slashes stands for. -/
def partOf (piece : String) : PathPart := if piece == ".." then .up else .name piece

/-- The parts of a path.  A dot counts only at the very start. -/
def pathParts (path : String) : List PathPart :=
  let pieces := pieces path
  let start : List PathPart :=
    if isAbsolute path then [.root] else if pieces.head? == some "." then [.here] else []
  start ++ (pieces.filter (· != ".")).map partOf

namespace PathPart

/-- The rank of a kind of part. -/
def rank : PathPart → Nat
  | root => 0
  | here => 1
  | up => 2
  | name _ => 3

/-- Whether a part comes before another one. -/
def isBefore : PathPart → PathPart → Bool
  | name a, name b => a < b
  | a, b => a.rank < b.rank

/-- A part as it is written. -/
def text : PathPart → String
  | root => ""
  | here => "."
  | up => ".."
  | name text => text

end PathPart

/-- Whether some parts come before others: at the first difference, or because there are no more. -/
def arePartsBefore : List PathPart → List PathPart → Bool
  | _, [] => false
  | [], _ :: _ => true
  | a :: as, b :: bs => a.isBefore b || (a == b && arePartsBefore as bs)

/-- Whether a path comes before another one. -/
def isPathBefore (a b : String) : Bool := arePartsBefore (pathParts a) (pathParts b)

/-- The path of something in a directory. -/
def joinPath (directory name : String) : String :=
  if isAbsolute name || directory.isEmpty then name
  else if directory.endsWith "/" then directory ++ name
  else directory ++ "/" ++ name

/-- The path that has some parts. -/
def pathOfParts : List PathPart → String
  | [.root] => "/"
  | parts => "/".intercalate (parts.map PathPart.text)

/-- The path of the directory in which something is; the root is in none. -/
def parentPath? (path : String) : Option String :=
  match pathParts path with
  | [] | [.root] => none
  | parts => some (pathOfParts parts.dropLast)

/-- What is behind the last dot of a name, if there is something before it. -/
def extensionOfName? (name : String) : Option String :=
  let ending := name.toList.reverse.takeWhile (· != '.')
  let before := name.toList.reverse.drop (ending.length + 1)
  if before.isEmpty then none else some (.ofList ending.reverse)

/-- The ending of the name at the end of a path. -/
def extension? (path : String) : Option String :=
  match (pathParts path).getLast? with
  | some (.name name) => extensionOfName? name
  | _ => none

end EnergyAudit.Files
