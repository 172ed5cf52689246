/-!
# Function records

What is known of one function of a source text.

## Main definitions

* `FunctionId` — names a function within a source.
* `LoopIssue` — what is wasteful in a loop.
* `FunctionRecord` — the structure and the text of a function.
-/

namespace EnergyAudit

/-- A stretch of a source text.  Bytes count from 0, lines and columns from 1. -/
structure Span where
  startByte : Nat
  endByte : Nat
  startLine : Nat
  startColumn : Nat
  endLine : Nat
  endColumn : Nat
deriving BEq, DecidableEq, Repr, Inhabited

/-- The lines of a stretch, as they are shown. -/
def Span.lines (s : Span) : String := toString s.startLine ++ "-" ++ toString s.endLine

/-- The name of a function within a source. -/
structure FunctionId where
  text : String
deriving BEq, DecidableEq, Hashable, Repr, Inhabited

/-- The id of the function with a qualified name that starts on a line. -/
def FunctionId.ofNameAndLine (qualifiedName : String) (line : Nat) : FunctionId :=
  ⟨qualifiedName ++ "@" ++ toString line⟩

/-- What is wasteful in a loop. -/
inductive LoopIssue where
  /-- A text or list is made longer by `+=`. -/
  | concatInLoop
  /-- A collection grows by calls of its methods. -/
  | growthInLoop
deriving BEq, DecidableEq, Repr, Inhabited

namespace LoopIssue

/-- The place of an issue in the order in which issues are listed. -/
def rank : LoopIssue → Nat
  | concatInLoop => 0
  | growthInLoop => 1

instance : LT LoopIssue := ⟨fun a b => a.rank < b.rank⟩

instance (a b : LoopIssue) : Decidable (a < b) := inferInstanceAs (Decidable (a.rank < b.rank))

/-- The issue in words. -/
def description : LoopIssue → String
  | concatInLoop => "string concatenation in loop (+=)"
  | growthInLoop => "collection growth in loop (.append/.insert)"

end LoopIssue

/-- The structure and the text of a function. -/
structure FunctionRecord where
  id : FunctionId
  name : String
  /-- The name after those of the classes and functions around it. -/
  qualifiedName : String
  /-- Where it stands, decorators left out. -/
  span : Span
  /-- How deep loops are nested in it. -/
  loopDepth : UInt32
  /-- Whether it calls itself. -/
  hasRecursion : Bool
  /-- The number of calls within loops that make a collection grow. -/
  growthOps : UInt32
  /-- The number of calls. -/
  callFanout : UInt32
  /-- The costly calls in it, each once and in order. -/
  expensiveCalls : List String
  /-- What is wasteful in its loops, each once and in order. -/
  loopIssues : List LoopIssue
  source : String
deriving BEq, DecidableEq, Repr, Inhabited

namespace FunctionRecord

/-- The first line of the function. -/
def startLine (r : FunctionRecord) : Nat := r.span.startLine

/-- The last line of the function. -/
def endLine (r : FunctionRecord) : Nat := r.span.endLine

/-- Whether the function opens files. -/
def opensFiles (r : FunctionRecord) : Bool := r.expensiveCalls.contains "open"

end FunctionRecord

end EnergyAudit
