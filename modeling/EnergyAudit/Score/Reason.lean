import EnergyAudit.Function.Record

/-!
# Reasons

Why a function scores as it does, in words for a reader.

## Main definitions

* `Category` — whether a function computes or waits.
* `FunctionRecord.reasons` — the reasons, the weightiest kind first.
-/

namespace EnergyAudit

/-- What a function spends its time on. -/
inductive Category where
  | computing
  | inputOutput
deriving BEq, DecidableEq, Repr, Inhabited

/-- The word for a category. -/
def Category.label : Category → String
  | computing => "CPU"
  | inputOutput => "I/O"

namespace FunctionRecord

/-- A function that opens files spends its time on input and output. -/
def category (r : FunctionRecord) : Category :=
  if r.opensFiles then .inputOutput else .computing

/-- The reasons behind the score of a function. -/
def reasons (r : FunctionRecord) : List String :=
  (if 0 < r.loopDepth then ["Loop nesting depth = " ++ toString r.loopDepth] else []) ++
  (if r.hasRecursion then ["Recursion detected"] else []) ++
  (if 0 < r.growthOps then
    [toString r.growthOps ++ " collection growth call(s) inside loops"] else []) ++
  (if r.expensiveCalls.isEmpty then []
    else ["Expensive calls: " ++ ", ".intercalate r.expensiveCalls]) ++
  r.loopIssues.map LoopIssue.description

end FunctionRecord

end EnergyAudit
