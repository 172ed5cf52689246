import EnergyAudit.Parsing.Parse
import EnergyAudit.Tree.Node

/-!
# From fragments to trees

Fragments that are not visible give way to their children, and the rest become nodes of a tree.

## Main definitions

* `nodeOf` — the tree of a fragment.
* `parseTree?` — the tree of a text.
-/

namespace EnergyAudit.Parsing

open EnergyAudit.Grammar EnergyAudit.Text EnergyAudit.Tree

variable {σ : Type}

/-- A step in building a tree. -/
inductive BuildTask (σ : Type) where
  /-- Builds the nodes of a fragment that starts at a place, blanks included. -/
  | visit (fragment : Fragment σ) (start : Nat) (shownAs field : Option String)
  /-- Makes a node of all that has been built since it was begun. -/
  | close (info : NodeInfo)

/-- Whether a fragment amounts to any node. -/
def hasNodes (fragment : Fragment σ) (shownAs : Option String) : Bool :=
  fragment.isVisible || shownAs.isSome || fragment.nodeChildren > 0

/-- What the node of a fragment is. -/
def infoOf (t : ParseTable) (index : LineIndex) (fragment : Fragment σ) (start : Nat)
    (shownAs field : Option String) : NodeInfo :=
  let symbol := t.symbols[fragment.symbol]?.getD default
  let first := start + fragment.padding.bytes
  { kind := if fragment.isError then "ERROR" else shownAs.getD symbol.kind
    isNamed := fragment.isError || shownAs.isSome || symbol.named
    field
    start := index.point first
    stop := index.point (first + fragment.size.bytes)
    isError := fragment.isError
    isMissing := fragment.isMissing
    hasError := fragment.cost > 0 }

/-- The tasks for the children of a fragment, the last child first.  The field name of a fragment
without a node of its own goes to its first child that amounts to a node. -/
def childTasks (t : ParseTable) (fragment : Fragment σ) (start : Nat) (field : Option String)
    (tasks : List (BuildTask σ)) : List (BuildTask σ) :=
  let step := fun (state : Nat × Nat × Option String × List (BuildTask σ)) (child : Fragment σ) =>
    let (start, place, pending, tasks) := state
    let shownAs := if child.isExtra then none else t.shownAs? fragment.names place
    let own := if child.isExtra then none else t.field? fragment.names place
    let (field, pending) := if pending.isSome && hasNodes child shownAs then
        (own.or pending, none)
      else (own, pending)
    (start + child.extent.bytes, if child.isExtra then place else place + 1, pending,
      .visit child start shownAs field :: tasks)
  (fragment.children.foldl step (start, 0, field, tasks)).2.2.2

/-- Works through the tasks.  `built` holds the nodes built so far, at each level those of one
node's children. -/
def build (t : ParseTable) (index : LineIndex) :
    Nat → List (BuildTask σ) → List (List Node) → List (List Node)
  | 0, _, built => built
  | _ + 1, [], built => built
  | fuel + 1, .close info :: tasks, built =>
    match built with
    | children :: siblings :: rest =>
      build t index fuel tasks ((.mk info children :: siblings) :: rest)
    | _ => build t index fuel tasks built
  | fuel + 1, .visit fragment start shownAs field :: tasks, built =>
    if fragment.isVisible || shownAs.isSome then
      let info := infoOf t index fragment start shownAs field
      build t index fuel (childTasks t fragment start none (.close info :: tasks)) ([] :: built)
    else build t index fuel (childTasks t fragment start field tasks) built

/-- The number of tasks that a tree takes at most: more than a text can have fragments. -/
def buildLimit : Nat := 1000000000000

/-- The tree of a fragment that has a node. -/
def nodeOf (t : ParseTable) (index : LineIndex) (fragment : Fragment σ) : Option Node :=
  match build t index buildLimit [.visit fragment 0 none none] [[]] with
  | [[node]] => some node
  | _ => none

/-- The tree of a text, if the parser comes to an end. -/
def parseTree? [BEq σ] (r : Reader σ) : Option Node :=
  (parse r).bind (nodeOf r.table (.ofSource r.source))

end EnergyAudit.Parsing
