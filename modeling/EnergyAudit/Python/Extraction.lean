import EnergyAudit.Parsing.Build
import EnergyAudit.Python.Grammar.Expression
import EnergyAudit.Python.Layout
import EnergyAudit.Python.Metrics
import EnergyAudit.Python.Violation

/-!
# Extraction

The record of every function that a source defines, in the order of the source.

## Main definitions

* `qualifiedName` — the name of a definition after those around it.
* `recordOf?` — the record of a visited definition.
* `records` — the records of a source.
* `table`, `tree?` — the parse table of Python and the tree of a source text.
* `Python.parse` — a source with its tree, if it is accepted.
-/

namespace EnergyAudit.Python

open EnergyAudit.Grammar EnergyAudit.Parsing EnergyAudit.Tree

/-- Whether a node defines a function or a class. -/
def isDefinition (n : Node) : Bool :=
  n.kind == "function_definition" || n.kind == "class_definition"

/-- The name that a node defines, if it is a definition with a name. -/
def definedName? (source : ByteArray) (n : Node) : Option String :=
  if isDefinition n then (n.childByField? "name").map (Node.text source) else none

/-- A name after those of the definitions around it, the outermost first, with dots between. -/
def qualifiedName (source : ByteArray) (ancestors : List Node) (name : String) : String :=
  ".".intercalate ((ancestors.filterMap (definedName? source)).reverse ++ [name])

/-- Whether a definition stands directly in the body of a class, decorators aside. -/
def isMethod (ancestors : List Node) : Bool :=
  let around := match ancestors with
    | n :: rest => if n.kind == "decorated_definition" then rest else n :: rest
    | [] => []
  match around with
  | block :: owner :: _ => block.kind == "block" && owner.kind == "class_definition"
  | _ => false

/-- The span of a node. -/
def spanOf (n : Node) : Span :=
  let start := n.info.start
  let stop := n.info.stop
  ⟨start.byte, stop.byte, start.row + 1, start.column + 1, stop.row + 1, stop.column + 1⟩

/-- The name of a function definition, where it is an identifier that is not empty. -/
def functionName? (source : ByteArray) (n : Node) : Option String :=
  if n.kind != "function_definition" then none
  else match n.childByField? "name" with
    | some name =>
      let text := name.text source
      if name.kind == "identifier" && !text.isEmpty then some text else none
    | none => none

/-- The metrics of a visited definition of a function with a name. -/
def metricsOf {κ : Type} [OfNat κ 0] [OfNat κ 1] [Add κ] [Max κ] [LT κ] [DecidableLT κ]
    (source : ByteArray) (v : Visit) (name : String) : BodyMetrics κ :=
  match v.node.childByField? "body" with
  | some body => .ofBody source body name (isMethod v.ancestors)
  | none => .empty

/-- The record of a function definition with a name. -/
def recordOf (source : ByteArray) (v : Visit) (name : String) : FunctionRecord :=
  let qualified := qualifiedName source v.ancestors name
  let span := spanOf v.node
  let metrics : BodyMetrics UInt32 := metricsOf source v name
  { id := .ofNameAndLine qualified span.startLine
    name
    qualifiedName := qualified
    span
    loopDepth := metrics.maxLoopDepth
    hasRecursion := metrics.hasRecursion
    growthOps := metrics.growthOps
    callFanout := metrics.callFanout
    expensiveCalls := metrics.expensiveCalls
    loopIssues := metrics.loopIssues
    source := v.node.text source }

/-- The record of a visited node, if it defines a function. -/
def recordOf? (source : ByteArray) (v : Visit) : Option FunctionRecord :=
  (functionName? source v.node).map (recordOf source v)

/-- Leaves one of neighbouring records that start at the same byte, the first. -/
def dropRepeated : List FunctionRecord → List FunctionRecord
  | a :: b :: rest =>
    if a.span.startByte == b.span.startByte then dropRepeated (a :: rest)
    else a :: dropRepeated (b :: rest)
  | rest => rest
termination_by records => records.length

/-- The records of all functions of a source, by their first bytes. -/
def records (p : ParsedSource) : List FunctionRecord :=
  dropRepeated ((p.root.visits.toList.filterMap (recordOf? p.source)).mergeSort
    fun a b => a.span.startByte ≤ b.span.startByte)

/-! ### Parsing -/

/-- The parse table of Python. -/
def table : ParseTable := .ofGrammar grammar

/-- The tree of a source text, if the parser comes to an end. -/
def tree? (source : ByteArray) : Option Node := parseTree? ⟨table, layoutScanner, source⟩

/-- A source with its tree, if there is nothing wrong with it. -/
def parse (text : String) : Except AnalysisError ParsedSource :=
  let source := text.toUTF8
  match tree? source with
  | none => .error (.grammar "parser returned no tree")
  | some root =>
    let p : ParsedSource := ⟨source, root⟩
    match faultIn? p with
    | some error => .error error
    | none => match violationIn? p with
      | some error => .error error
      | none => .ok p

end EnergyAudit.Python
