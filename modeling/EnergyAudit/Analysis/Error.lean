import EnergyAudit.Function.Record
import EnergyAudit.Text.Quoted

/-!
# Errors of an analysis

Why a source cannot be analyzed, or a function not be found.

## Main definitions

* `SourceComplaint` — what is wrong with a source text.
* `AnalysisError` — with `AnalysisError.message`.
-/

namespace EnergyAudit

open EnergyAudit.Text

/-- What is wrong at a place in a source text. -/
inductive SourceComplaint where
  /-- There is text outside the language; the beginning of it is quoted. -/
  | invalid (snippet : String)
  /-- Something is lacking. -/
  | missing (kind : String)
  | printStatement
  | execStatement
  | backticks
  | unexpectedIndent
  | expectedIndent
  | unmatchedIndent
deriving BEq, DecidableEq, Repr

/-- The complaint in words. -/
def SourceComplaint.message : SourceComplaint → String
  | invalid snippet =>
    if snippet.isEmpty then "invalid syntax" else "invalid syntax near `" ++ snippet ++ "`"
  | missing kind => "missing `" ++ kind ++ "`"
  | printStatement => "Missing parentheses in call to 'print'"
  | execStatement => "Missing parentheses in call to 'exec'"
  | backticks => "invalid syntax near `` ` ``"
  | unexpectedIndent => "unexpected indent"
  | expectedIndent => "expected an indented block"
  | unmatchedIndent => "unindent does not match any outer indentation level"

/-- Why there is no analysis.  Lines and columns count from 1. -/
inductive AnalysisError where
  /-- The source is not accepted at some place. -/
  | rejected (line column : Nat) (message : String)
  | tooLarge (size limit : Nat)
  | notFound (id : FunctionId)
  | unknownLanguage (language : String)
  /-- The grammar itself is of no use. -/
  | grammar (message : String)
deriving BEq, DecidableEq, Repr

namespace AnalysisError

/-- The line of a place that is not accepted. -/
def line? : AnalysisError → Option Nat
  | rejected line _ _ => some line
  | _ => none

/-- A word for the kind of error. -/
def kind : AnalysisError → String
  | rejected .. => "syntax_error"
  | tooLarge .. => "size_limit_exceeded"
  | notFound _ => "not_found"
  | unknownLanguage _ => "unsupported_language"
  | grammar _ => "grammar_error"

/-- The error in words. -/
def message : AnalysisError → String
  | rejected line column message =>
    "SyntaxError at line " ++ toString line ++ ", column " ++ toString column ++ ": " ++ message
  | tooLarge size limit =>
    "source is " ++ toString size ++ " bytes, limit is " ++ toString limit
  | notFound id => "function " ++ id.text ++ " not found in this session"
  | unknownLanguage language => "no analyzer for language " ++ quoted language
  | grammar message => "grammar error: " ++ message

end AnalysisError

end EnergyAudit
