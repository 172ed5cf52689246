import EnergyAudit.Analysis.Error
import EnergyAudit.Text.Basic
import EnergyAudit.Tree.Walk

/-!
# Faults in a tree

A source with its tree, and the first place where the tree stands for text outside the language or
for something that the text lacks.

## Main definitions

* `ParsedSource` — the bytes of a source and its tree.
* `Node.firstFault?` — the first node that is a fault.
* `faultIn?` — the error at that node.
-/

namespace EnergyAudit

open EnergyAudit.Text EnergyAudit.Tree

/-- The bytes of a source with its tree. -/
structure ParsedSource where
  source : ByteArray
  root : Node

namespace Tree.Node

mutual

/-- Follows the first child with an error down to a fault, or to a node with no such child. -/
def descend : Node → Node
  | mk info children =>
    if info.isError || info.isMissing then mk info children
    else (descendAmong children).getD (mk info children)

/-- Follows the first node with an error. -/
def descendAmong : List Node → Option Node
  | [] => none
  | n :: rest =>
    if n.isFault || n.info.hasError then some n.descend else descendAmong rest

end

/-- The first fault of a tree that has an error. -/
def firstFault? (root : Node) : Option Node :=
  if root.info.hasError then some root.descend else none

end Tree.Node

namespace Python

/-- The number of characters of a fault that are quoted. -/
def snippetLength : Nat := 24

/-- The beginning of a fault's text: its first line without blanks at its ends, cut short. -/
def snippet (text : String) : String :=
  .ofList ((trim (text.toList.takeWhile (· != '\n'))).take snippetLength)

/-- What is wrong at a fault. -/
def complaintAt (source : ByteArray) (fault : Node) : SourceComplaint :=
  if fault.info.isMissing then .missing fault.kind else .invalid (snippet (fault.text source))

/-- The error at the first fault of a tree. -/
def faultIn? (p : ParsedSource) : Option AnalysisError :=
  p.root.firstFault?.map fun fault =>
    .rejected (fault.info.start.row + 1) (fault.info.start.column + 1)
      (complaintAt p.source fault).message

end Python

end EnergyAudit
