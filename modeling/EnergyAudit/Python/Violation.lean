import EnergyAudit.Python.Source

/-!
# Violations

What the grammar lets pass but Python does not: statements of its second version, backticks, blocks
without statements and irregular indentation.  The earliest violation of a tree counts.

## Main definitions

* `leadingColumn?`, `lineIndent` — the indentation of a place and of its line.
* `suiteViolations` — what is wrong with the statements of a module or block.
* `violations` — all violations of a tree.
* `earliest?` — the first of those with the smallest byte.
-/

namespace EnergyAudit.Python

open EnergyAudit.Text EnergyAudit.Tree

/-! ### Indentation -/

/-- Whether a byte counts as indentation: a space, a tab or a form feed. -/
def isIndentByte (byte : Nat) : Bool := byte == 32 || byte == 9 || byte == 12

/-- The place where the line of a place starts. -/
def lineStart (source : ByteArray) : Nat → Nat
  | 0 => 0
  | place + 1 => if byteAt source place == 10 then place + 1 else lineStart source place

/-- Whether there are only bytes of indentation from one place up to another. -/
def isIndentation (source : ByteArray) (start stop : Nat) : Bool :=
  (List.range' start (stop - start)).all fun place => isIndentByte (byteAt source place)

/-- The column of a place that is first on its line but for indentation. -/
def leadingColumn? (source : ByteArray) (place : Nat) : Option Nat :=
  let start := lineStart source place
  if isIndentation source start place then some (place - start) else none

/-- The number of bytes of indentation from a place on, of so many bytes at most. -/
def indentWidth (source : ByteArray) : Nat → Nat → Nat
  | 0, _ => 0
  | limit + 1, place =>
    if isIndentByte (byteAt source place) then indentWidth source limit (place + 1) + 1 else 0

/-- The width of the indentation of the line of a place. -/
def lineIndent (source : ByteArray) (place : Nat) : Nat :=
  let start := lineStart source place
  indentWidth source (source.size - start) start

/-! ### Statements of a suite -/

/-- A violation with its place. -/
structure Violation where
  byte : Nat
  row : Nat
  column : Nat
  complaint : SourceComplaint
deriving BEq, DecidableEq, Repr

/-- The violation at the start of a node. -/
def Violation.at (n : Node) (complaint : SourceComplaint) : Violation :=
  ⟨n.startByte, n.info.start.row, n.info.start.column, complaint⟩

/-- The statements of a module or block. -/
def statementsOf (suite : Node) : List Node :=
  suite.children.filter fun n => n.info.isNamed && n.kind != "comment"

/-- What is wrong with the column of a statement that is first on its line.  `indent` is the column
that the statements before it agree on and `outer` the width of the indentation around a block. -/
def columnComplaint? (outer indent : Option Nat) (column : Nat) : Option SourceComplaint :=
  match indent, outer with
  | none, none => if column != 0 then some .unexpectedIndent else none
  | none, some width => if column ≤ width then some .expectedIndent else none
  | some expected, _ =>
    if expected < column then some .unexpectedIndent
    else if column < expected then some .unmatchedIndent
    else none

/-- The violations of the statements of a suite by their columns.  A statement that follows other
text on its line is left out of account. -/
def columnViolations (source : ByteArray) (outer : Option Nat) :
    Option Nat → List Node → List Violation
  | _, [] => []
  | indent, n :: rest =>
    match leadingColumn? source n.startByte with
    | none => columnViolations source outer indent rest
    | some column =>
      match columnComplaint? outer indent column with
      | some complaint => .at n complaint :: columnViolations source outer indent rest
      | none => columnViolations source outer (indent.or (some column)) rest

/-- The violation of a block without statements: it is shown at the start of the line behind the
header. -/
def emptyBlock (v : Visit) : Violation :=
  let header := match v.previous with
    | some n => n.info.stop.row
    | none => v.node.info.start.row
  ⟨v.node.startByte, max v.node.info.start.row (header + 1), 0, .expectedIndent⟩

/-- What is wrong with the statements of a module or a block; `outer` is the width of the
indentation around a block. -/
def suiteViolations (source : ByteArray) (outer : Option Nat) (v : Visit) : List Violation :=
  let statements := statementsOf v.node
  if v.node.kind == "block" && statements.isEmpty then [emptyBlock v]
  else columnViolations source outer none statements

/-- What is wrong at a node. -/
def violationsAt (source : ByteArray) (v : Visit) : List Violation :=
  match v.node.kind with
  | "print_statement" => [.at v.node .printStatement]
  | "exec_statement" => [.at v.node .execStatement]
  | "string" =>
    if (v.node.text source).startsWith "`" then [.at v.node .backticks] else []
  | "module" => suiteViolations source none v
  | "block" =>
    let header := (v.parent?.map Node.startByte).getD 0
    suiteViolations source (some (lineIndent source header)) v
  | _ => []

/-! ### The whole tree -/

/-- All violations of a tree, in the order in which its nodes are visited. -/
def violations (p : ParsedSource) : List Violation :=
  p.root.visits.toList.flatMap (violationsAt p.source)

/-- The earlier of two violations, the first if they are at the same byte. -/
def earlier (a b : Violation) : Violation := if b.byte < a.byte then b else a

/-- The earliest of some violations: the first of those with the smallest byte. -/
def earliest? : List Violation → Option Violation
  | [] => none
  | v :: rest => some (rest.foldl earlier v)

/-- A violation as an error. -/
def Violation.error (v : Violation) : AnalysisError :=
  .rejected (v.row + 1) (v.column + 1) v.complaint.message

/-- The error at the earliest violation of a tree. -/
def violationIn? (p : ParsedSource) : Option AnalysisError :=
  (earliest? (violations p)).map Violation.error

end EnergyAudit.Python
