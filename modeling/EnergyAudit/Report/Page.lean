import EnergyAudit.Decimal.Text
import EnergyAudit.Report.FileAnalysis
import EnergyAudit.Suggestion.Result
import EnergyAudit.Terminal.Style
import EnergyAudit.Text.Basic

/-!
# Reports for readers

Reports and suggestions as text for a terminal.

## Main definitions

* `analysisPage` — the analyses of several files.
* `suggestionPage` — the result of a request.
-/

namespace EnergyAudit

open EnergyAudit.Decimal EnergyAudit.Terminal EnergyAudit.Text

/-- The first lines of every page. -/
def pageHeader (isColored : Bool) : String :=
  "\n  " ++ (Style.boldColored .cyan).paint isColored "ecocode" ++ " v" ++ programVersion ++ "\n\n"

/-- The style of a score: the higher, the more striking. -/
def scoreStyle (score : UInt64) : Style :=
  if score ≤ 1 then .colored .green
  else if score ≤ 4 then .colored .yellow
  else if score ≤ 16 then .boldColored .yellow
  else .boldColored .red

/-- The lines on a function. -/
def hotspotLines (isColored : Bool) (h : Hotspot) : String :=
  "    " ++ padLeft 3 (toString h.rank) ++ ". " ++
  (scoreStyle h.score).paint isColored (padLeft 5 (toString h.score)) ++
  "  " ++ Style.faint.paint isColored (padRight 5 h.category.label) ++
  Style.bold.paint isColored h.name ++
  Style.faint.paint isColored ("  lines " ++ toString h.startLine ++ "-" ++ toString h.endLine ++
    "  [" ++ h.functionId.text ++ "]") ++ "\n" ++
  String.join (h.reasons.map fun reason => "           - " ++ reason ++ "\n") ++
  "           " ++ Style.faint.paint isColored ("~" ++ plainText h.energy.joulesPerRun ++
    " J/run, " ++ plainText h.energy.costPer1mRuns ++ " per 1M runs") ++ "\n\n"

/-- The lines on the functions of a source, at most so many of them. -/
def hotspotTable (isColored : Bool) (top : Option Nat) (r : AnalysisReport) : String :=
  let shown := r.hotspots.take (top.getD r.hotspots.length)
  let hidden := r.hotspots.length - shown.length
  String.join (shown.map (hotspotLines isColored)) ++
  (if hidden == 0 then ""
    else "    " ++ Style.faint.paint isColored ("... " ++ toString hidden ++ " more") ++ "\n\n") ++
  "  " ++ Style.faint.paint isColored ("Cost at " ++ plainText r.summary.electricityRate ++
    " per kWh. " ++ r.summary.note) ++ "\n\n"

/-- The lines on a source. -/
def reportLines (isColored : Bool) (top : Option Nat) (r : AnalysisReport) : String :=
  "  " ++ toString r.summary.functionCount ++ " function(s), " ++
  toString r.summary.hotspotCount ++ " above baseline\n\n" ++
  if r.hotspots.isEmpty then
    "    " ++ Style.faint.paint isColored "No functions found" ++ "\n\n"
  else hotspotTable isColored top r

/-- The lines on a file. -/
def fileLines (isColored : Bool) (top : Option Nat) (f : FileAnalysis) : String :=
  "  " ++ Style.faint.paint isColored "File: " ++ f.path ++ "\n" ++
  match f.outcome with
  | .ok report => reportLines isColored top report
  | .error error =>
    "    " ++ (Style.colored .red).paint isColored "ERROR" ++ " " ++ error.message ++ "\n\n"

/-- The last line on the analyses of several files. -/
def closingLine (isColored : Bool) (results : List FileAnalysis) : String :=
  let failed := results.countP FileAnalysis.isFailed
  if failed == 0 then
    (Style.colored .green).paint isColored (toString results.length ++ " file(s) analyzed")
  else
    (Style.colored .red).paint isColored
      (toString failed ++ " of " ++ toString results.length ++ " file(s) failed to analyze")

/-- The analyses of several files, of each at most so many functions. -/
def analysisPage (isColored : Bool) (top : Option Nat) (results : List FileAnalysis) : String :=
  pageHeader isColored ++ String.join (results.map (fileLines isColored top)) ++
  "  " ++ closingLine isColored results ++ "\n\n"

/-! ### Suggestions -/

/-- The words for the end of a request. -/
def statusWords (isColored : Bool) : SuggestionStatus → String
  | .succeeded => (Style.colored .green).paint isColored "✓ SUCCEEDED"
  | .failed => (Style.colored .red).paint isColored "✗ FAILED"
  | .cancelled => (Style.colored .yellow).paint isColored "CANCELLED"

/-- Who answered a request. -/
def providerWords (isColored : Bool) (r : SuggestionResult) : String :=
  match r.slot?, r.provider? with
  | some slot, some provider =>
    "  " ++ Style.faint.paint isColored ("via " ++ provider ++ " (" ++ slot.name ++ ")")
  | _, _ => ""

/-- The explanation and the code of an answer. -/
def answerLines (isColored : Bool) (r : SuggestionResult) : String :=
  (if r.rationale.isEmpty then ""
    else
      "  " ++ Style.bold.paint isColored "Rationale:" ++ "\n" ++
      String.join ((lines r.rationale).map fun line => "    " ++ line ++ "\n") ++ "\n") ++
  (if r.code.isEmpty then
      "  " ++ Style.faint.paint isColored "(no code block in the response)" ++ "\n"
    else
      "  " ++ Style.bold.paint isColored "Improved code:" ++ "\n" ++
      String.join ((lines r.code).map fun line =>
        "    " ++ (Style.colored .cyan).paint isColored line ++ "\n")) ++ "\n"

/-- The result of a request. -/
def suggestionPage (isColored : Bool) (r : SuggestionResult) : String :=
  pageHeader isColored ++
  "  " ++ Style.faint.paint isColored "Function: " ++ r.functionId.text ++ "\n" ++
  "  " ++ statusWords isColored r.status ++ providerWords isColored r ++ "\n\n" ++
  match r.status with
  | .succeeded => answerLines isColored r
  | .failed =>
    "  " ++ Style.faint.paint isColored "All providers failed; run with -v for details." ++ "\n\n"
  | .cancelled => ""

end EnergyAudit
