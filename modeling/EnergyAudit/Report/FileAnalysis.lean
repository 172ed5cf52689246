import EnergyAudit.Analysis.Error
import EnergyAudit.Analysis.Report

/-!
# Analyses of files

## Main definitions

* `FileError` — why a file has no report.
* `FileAnalysis` — a file with its report or with the reason why it has none.
-/

namespace EnergyAudit

/-- Why a file has no report. -/
inductive FileError where
  | unreadable (path message : String)
  | analysis (error : AnalysisError)
deriving BEq, DecidableEq, Repr

namespace FileError

/-- A word for the kind of error. -/
def kind : FileError → String
  | unreadable .. => "read_error"
  | analysis error => error.kind

/-- The line of the file that is to blame. -/
def line? : FileError → Option Nat
  | unreadable .. => none
  | analysis error => error.line?

/-- The error in words. -/
def message : FileError → String
  | unreadable path message => "cannot read " ++ path ++ ": " ++ message
  | analysis error => error.message

end FileError

/-- What came of the analysis of a file. -/
structure FileAnalysis where
  path : String
  outcome : Except FileError AnalysisReport

/-- Whether a file has no report. -/
def FileAnalysis.isFailed (f : FileAnalysis) : Bool :=
  match f.outcome with
  | .ok _ => false
  | .error _ => true

end EnergyAudit
