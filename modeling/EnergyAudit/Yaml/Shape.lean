import EnergyAudit.Yaml.Meaning

/-!
# Documents of an expected shape

A document is read as what is expected of it, node by node from its start.  The first thing that is
not as expected ends the reading, also if the text makes no sense further on.

## Main definitions

* `ShapeError` — why a document is not as expected, with `ShapeError.message`, and
  `ShapeError.bareMessage` which does not name the place.
* `Document.readText`, `Document.readWhole`, `Document.readFloat`, `Document.readOptional`,
  `Document.readChoice`, `Document.readItems`, `Document.readFields` — readers for nodes.
* `Document.read` — reads a whole document.
-/

namespace EnergyAudit.Yaml

open EnergyAudit.Text

/-- Why a document is not as expected. -/
inductive ShapeError where
  /-- Something is wrong, in a node with a place and a path if that is known. -/
  | wrong (problem : String) (site : Option (Place × String))
  /-- The text makes no sense. -/
  | document (problem : DocumentProblem)
  /-- There is nothing. -/
  | noContent
  /-- There is more than one document. -/
  | moreDocuments

/-- A place behind a message, unless it is the very start. -/
def placeWords (p : Place) : String := if p.isStart then "" else " at " ++ p.words

namespace ShapeError

/-- The error in words, without the place of what is wrong. -/
def bareMessage : ShapeError → String
  | wrong problem none => problem
  | wrong problem (some (_, path)) => if path.isEmpty then problem else path ++ ": " ++ problem
  | document (.unreadable p) => p.message
  | document (.unknownName _) => "unknown anchor"
  | noContent => "EOF while parsing a value"
  | moreDocuments => "deserializing from YAML containing more than one document is not supported"

/-- The error in words. -/
def message (e : ShapeError) : String :=
  e.bareMessage ++ match e with
    | wrong _ (some (place, _)) | document (.unknownName place) => placeWords place
    | _ => ""

/-- Names the node in which something is wrong, unless one has been named. -/
def inside (place : Place) (path : String) : ShapeError → ShapeError
  | wrong problem none => wrong problem (some (place, path))
  | e => e

end ShapeError

/-- What the reading of a node gives. -/
abbrev Shaped (α : Type) : Type := Except ShapeError α

/-- Something that is wrong. -/
def wrong {α : Type} (problem : String) : Shaped α := .error (.wrong problem none)

/-- Names the node in which something is wrong. -/
def locate {α : Type} (place : Place) (path : String) (r : Shaped α) : Shaped α :=
  r.mapError (·.inside place path)

mutual

/-- Whether the text stops within a node. -/
def Node.isBroken : Node → Bool
  | .broken => true
  | .sequence _ _ items => areBroken items
  | .mapping _ _ parts => areBroken parts
  | _ => false

/-- Whether the text stops within one of the nodes. -/
def areBroken : List Node → Bool
  | [] => false
  | node :: nodes => node.isBroken || areBroken nodes

end

/-- The place of a node. -/
def Node.place : Node → Place
  | .scalar place _ _ | .sequence place _ _ | .mapping place _ _ | .reference place _ => place
  | .broken => .start

/-- What is said of something that is not as expected. -/
def unexpected (actual expected : String) : String :=
  "invalid type: " ++ actual ++ ", expected " ++ expected

namespace Document

variable (d : Document)

/-- Why the text stops. -/
def stopError : ShapeError :=
  match d.problem with
  | some problem => .document problem
  | none => .noContent

/-- The node itself, or what it stands for. -/
def resolve (node : Node) : Node :=
  match node with
  | .reference _ number => (d.target? number).getD .broken
  | node => node

/-- Refuses a node. -/
def refuse {α : Type} (expected : String) : Node → Shaped α
  | .scalar _ tag s =>
    match s.meaning tag with
    | .ok m => wrong (unexpected m.words expected)
    | .error m => wrong ("invalid value: string " ++ quoted m.text ++ ", expected " ++ m.expected)
  | .sequence _ _ _ => wrong (unexpected "sequence" expected)
  | .mapping _ _ _ => wrong (unexpected "map" expected)
  | .reference _ _ | .broken => .error d.stopError

/-- Reads a node, or what it stands for, at a path. -/
def reading {α : Type} (path : String) (node : Node) (read : Node → Shaped α) : Shaped α :=
  let node := d.resolve node
  locate node.place path (read node)

/-! ### Scalars -/

/-- Reads a text.  Every scalar is one. -/
def readText (expected path : String) (node : Node) : Shaped String :=
  d.reading path node fun node =>
    match node with
    | .scalar _ _ s => .ok s.text
    | _ => d.refuse expected node

/-- Whether a scalar may be a number. -/
def mayBeNumber (s : Scalar) (tag : Option String) (kind : String) : Bool :=
  s.style == .plain || (s.style == .literal && tag == some (coreTag kind))

/-- Reads a number without a sign. -/
def readUnsigned (expected path : String) (node : Node) : Shaped Nat :=
  d.reading path node fun node =>
    match node with
    | .scalar _ tag s =>
      match if mayBeNumber s tag "int" then wholeNumber? UInt64.size s.text.toList else none with
      | some n => .ok n
      | none => d.refuse expected node
    | _ => d.refuse expected node

/-- Reads a number without a sign below a bound. -/
def readWhole (bound : Nat) (expected path : String) (node : Node) : Shaped Nat := do
  let n ← d.readUnsigned expected path node
  if n < bound then return n
  else
    locate (d.resolve node).place path
      (wrong ("invalid value: integer `" ++ toString n ++ "`, expected " ++ expected))

/-- Reads a float. -/
def readFloat (expected path : String) (node : Node) : Shaped Float :=
  d.reading path node fun node =>
    match node with
    | .scalar _ tag s =>
      match if mayBeNumber s tag "float" then floatNumber? s.text else none with
      | some x => .ok x
      | none => d.refuse expected node
    | _ => d.refuse expected node

/-- Reads what may be missing. -/
def readOptional {α : Type} (read : Node → Shaped α) (node : Node) : Shaped (Option α) :=
  match d.resolve node with
  | .scalar _ tag s =>
    if s.style != .plain then (read node).map some
    else if tag == some (coreTag "null") then
      if isNullText s.text then .ok none
      else wrong ("invalid value: string " ++ quoted s.text ++ ", expected null")
    else if tag.isNone && (s.text.isEmpty || isNullText s.text) then .ok none
    else (read node).map some
  | _ => (read node).map some

/-- Some names in words. -/
def choiceWords (names : List String) : String :=
  " or ".intercalate (names.map fun name => "`" ++ name ++ "`")

/-- Reads one of some names, as a scalar or as a tag of an empty one. -/
def readChoice {α : Type} (choices : List (String × α)) (path : String) (node : Node) : Shaped α :=
  let choose (name : String) : Shaped α :=
    match choices.lookup name with
    | some choice => .ok choice
    | none =>
      wrong ("unknown variant `" ++ name ++ "`, expected " ++
        choiceWords (choices.map (·.1)))
  d.reading path node fun node =>
    let tag? : Option String := match node with
      | .scalar _ tag _ | .sequence _ tag _ | .mapping _ tag _ =>
        tag.filter fun tag => tag.startsWith "!"
      | _ => none
    match tag? with
    | some tag => do
      let choice ← choose (tag.drop 1).toString
      match node with
      | .scalar _ _ s =>
        if s.style == .plain && (s.text.isEmpty || isNullText s.text) then return choice
        else d.refuse "unit" node
      | _ => d.refuse "unit" node
    | none =>
      match node with
      | .scalar _ _ s => choose s.text
      | _ => d.refuse "a YAML tag starting with '!'" node

/-! ### Sequences and mappings -/

/-- Whether nothing stands where a sequence or a mapping could. -/
def isNothing : Node → Bool
  | .scalar _ _ s => s.style == .plain && s.text.isEmpty
  | _ => false

/-- Reads the items of a sequence. -/
def readItems {α : Type} (item : String → Node → Shaped α) (path : String) (node : Node) :
    Shaped (List α) :=
  d.reading path node fun node =>
    match node with
    | .sequence _ _ items =>
      items.zipIdx.mapM fun (node, i) => item (path ++ "[" ++ toString i ++ "]") node
    | _ => if isNothing node then .ok [] else d.refuse "a sequence" node

/-- The path of a value in a mapping. -/
def memberPath (path : String) (key : Node) : String :=
  let name := match key with
    | .scalar _ _ s => s.text
    | _ => "?"
  if path.isEmpty then name else path ++ "." ++ name

/-- Passes a node. -/
def ignore (node : Node) : Shaped Unit := if node.isBroken then .error d.stopError else .ok ()

/-- Reads keys and values one after another.  The reader of a field is given its name, its path and
its value. -/
def readMembers {σ : Type} (field : σ → String → String → Node → Shaped σ) (path : String) :
    List Node → σ → Shaped σ
  | key :: value :: parts, state => do
    let name ← d.readText "field identifier" path key
    let state ← field state name (memberPath path key) value
    readMembers field path parts state
  | key :: _, state => do
    let _ ← d.readText "field identifier" path key
    return state
  | [], state => .ok state

/-- Reads the fields of a mapping, from what is known before to what is made of them. -/
def readFields {σ α : Type} (expected : String) (start : σ)
    (field : σ → String → String → Node → Shaped σ) (finish : σ → Shaped α) (path : String)
    (node : Node) : Shaped α :=
  d.reading path node fun node =>
    match node with
    | .mapping _ _ parts => d.readMembers field path parts start >>= finish
    | _ => if isNothing node then finish start else d.refuse expected node

/-- A field that has been read, if it had not been read before. -/
def once {α : Type} (name : String) (before : Option α) (value : Shaped α) : Shaped (Option α) :=
  if before.isSome then wrong ("duplicate field `" ++ name ++ "`") else value.map some

/-- A field that has to be there. -/
def required {α : Type} (name : String) (field : Option α) : Shaped α :=
  match field with
  | some value => .ok value
  | none => wrong ("missing field `" ++ name ++ "`")

/-! ### Whole documents -/

/-- Reads a whole document.  What is wrong with its end counts after all that is read. -/
def read {α : Type} (reader : String → Node → Shaped α) : Shaped α := do
  let value ← reader "" (d.root.getD (emptyScalar .start none))
  match d.problem with
  | some problem => throw (.document problem)
  | none => if d.hasMore then throw .moreDocuments else return value

end Document

end EnergyAudit.Yaml
