import EnergyAudit.Ascending
import EnergyAudit.Python.Source

/-!
# Metrics of a function body

How deep loops are nested in a body, and what is called in it.  Definitions within the body count as
well.

## Main definitions

* `loopLevel` — the number of loops around a node, from that of the node above.
* `Callee` — what a call is made to.
* `BodyMetrics.visit` — what one node adds to the metrics.
* `BodyMetrics.ofBody` — the metrics.

## Implementation notes

The counters of `BodyMetrics` are of any type that there is a zero, a one and a sum of.  Those of
the program are 32 bits wide; with natural numbers nothing is lost where these overflow.
-/

namespace EnergyAudit.Python

open EnergyAudit.Tree

/-! ### Loops -/

/-- Whether a node is a loop. -/
def isLoop (n : Node) : Bool := n.kind == "for_statement" || n.kind == "while_statement"

/-- The loop level of a node below one with a given level; a loop belongs to its own level. -/
def loopLevel {κ : Type} [OfNat κ 1] [Add κ] (n : Node) (above : κ) : κ :=
  if isLoop n then above + 1 else above

/-! ### Calls -/

/-- What a call is made to. -/
inductive Callee where
  /-- A name. -/
  | name (text : String)
  /-- An attribute of an object, such as a method. -/
  | member (object method : String)
  /-- Anything else. -/
  | other
deriving BEq, DecidableEq, Repr

/-- The text of a child by its field; empty if there is none. -/
def fieldText (source : ByteArray) (n : Node) (field : String) : String :=
  ((n.childByField? field).map (Node.text source)).getD ""

/-- What a call is made to. -/
def calleeOf (source : ByteArray) (call : Node) : Callee :=
  match call.childByField? "function" with
  | none => .other
  | some target =>
    if target.kind == "identifier" then .name (target.text source)
    else if target.kind == "attribute" then
      .member (fieldText source target "object") (fieldText source target "attribute")
    else .other

/-- Names of functions that are costly in themselves. -/
def costlyFunctions : List String := ["sorted", "open", "print"]

/-- Names of methods that make a collection grow. -/
def growthMethods : List String := ["append", "appendleft", "extend", "insert", "add", "update"]

namespace Callee

/-- Whether a function with a name calls itself by a call to this; a method does so by its object
too. -/
def isRecursion (name : String) (isMethod : Bool) : Callee → Bool
  | .name text => text == name
  | .member object method => isMethod && method == name && (object == "self" || object == "cls")
  | .other => false

/-- The costly call that a call to this is, if any. -/
def costly? : Callee → Option String
  | .name text => if costlyFunctions.contains text then some text else none
  | .member _ method => if method == "sort" then some "sort()" else none
  | .other => none

/-- Whether a call to this makes a collection grow. -/
def isGrowth : Callee → Bool
  | .member _ method => growthMethods.contains method
  | _ => false

end Callee

/-- Whether a node makes a text or list longer by `+=`. -/
def isConcat (n : Node) : Bool :=
  n.kind == "augmented_assignment" &&
    ((n.childByField? "operator").map Node.kind) == some "+="

/-! ### Metrics -/

/-- The metrics of a function body, with counters of some type. -/
structure BodyMetrics (κ : Type) where
  maxLoopDepth : κ
  hasRecursion : Bool
  growthOps : κ
  callFanout : κ
  expensiveCalls : List String
  loopIssues : List LoopIssue
deriving BEq, DecidableEq, Repr

namespace BodyMetrics

section Counters

variable {κ : Type} [OfNat κ 0] [OfNat κ 1] [Add κ] [Max κ] [LT κ] [DecidableLT κ]

/-- The metrics of a function without a body. -/
def empty : BodyMetrics κ := ⟨0, false, 0, 0, [], []⟩

/-- Adds a call at a loop level in a function with a name. -/
def visitCall (name : String) (isMethod : Bool) (callee : Callee) (level : κ) (m : BodyMetrics κ) :
    BodyMetrics κ :=
  let m := { m with
    callFanout := m.callFanout + 1
    hasRecursion := m.hasRecursion || callee.isRecursion name isMethod
    expensiveCalls := match callee.costly? with
      | some costly => Ascending.insert costly m.expensiveCalls
      | none => m.expensiveCalls }
  if callee.isGrowth && 0 < level then
    { m with
      growthOps := m.growthOps + 1
      loopIssues := Ascending.insert .growthInLoop m.loopIssues }
  else m

/-- Adds a node at a loop level in the body of a function with a name. -/
def visit (source : ByteArray) (name : String) (isMethod : Bool) (n : Node) (level : κ)
    (m : BodyMetrics κ) : BodyMetrics κ :=
  let m := if isLoop n then { m with maxLoopDepth := max m.maxLoopDepth level } else m
  if n.kind == "call" then m.visitCall name isMethod (calleeOf source n) level
  else if isConcat n && 0 < level then
    { m with loopIssues := Ascending.insert .concatInLoop m.loopIssues }
  else m

/-- The metrics of the body of a function with a name. -/
def ofBody (source : ByteArray) (body : Node) (name : String) (isMethod : Bool) : BodyMetrics κ :=
  body.foldLevels loopLevel (visit source name isMethod) 0 empty

end Counters

end BodyMetrics

end EnergyAudit.Python
