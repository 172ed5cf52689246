import EnergyAudit.Json.Value
import EnergyAudit.Report.FileAnalysis
import EnergyAudit.Suggestion.Result

/-!
# Reports as data

Reports and suggestions as JSON values.

## Main definitions

* `AnalysisReport.json`, `SuggestionResult.json`
* `analysisDocument` — the analyses of several files.
-/

namespace EnergyAudit

/-- An estimate as data. -/
def EnergyEstimate.json (e : EnergyEstimate) : Json :=
  .object [
    ("joules_per_run", .float e.joulesPerRun),
    ("cost_per_1000_runs", .float e.costPer1000Runs),
    ("cost_per_1m_runs", .float e.costPer1mRuns)]

/-- A function in its place of the ranking as data. -/
def Hotspot.json (h : Hotspot) : Json :=
  .object [
    ("function_id", .string h.functionId.text),
    ("name", .string h.name),
    ("start_line", .nat h.startLine),
    ("end_line", .nat h.endLine),
    ("score", .nat h.score.toNat),
    ("rank", .nat h.rank),
    ("category", .string h.category.label),
    ("reasons", .strings h.reasons),
    ("energy", h.energy.json),
    ("source", .string h.source)]

/-- What a report says of a source as a whole as data. -/
def ReportSummary.json (s : ReportSummary) : Json :=
  .object [
    ("filename", .string s.filename),
    ("language", .string s.language),
    ("function_count", .nat s.functionCount),
    ("hotspot_count", .nat s.hotspotCount),
    ("electricity_rate_per_kwh", .float s.electricityRate),
    ("note", .string s.note)]

/-- A report as data. -/
def AnalysisReport.json (r : AnalysisReport) : Json :=
  .object [("summary", r.summary.json), ("hotspots", .array (r.hotspots.map Hotspot.json))]

/-- An error as data; where there is no line to blame none is named. -/
def FileError.json (e : FileError) : Json :=
  .object (
    [("kind", .string e.kind), ("message", .string e.message)] ++
    e.line?.toList.map fun line => ("line", .nat line))

/-- The analysis of a file as data, with either a report or an error. -/
def FileAnalysis.json (f : FileAnalysis) : Json :=
  .object [("path", .string f.path),
    match f.outcome with
    | .ok report => ("report", report.json)
    | .error error => ("error", error.json)]

/-- The analyses of several files as data. -/
def analysisDocument (results : List FileAnalysis) : Json :=
  .object [
    ("version", .string programVersion),
    ("files_analyzed", .nat results.length),
    ("files_failed", .nat (results.countP FileAnalysis.isFailed)),
    ("files", .array (results.map FileAnalysis.json))]

/-- The result of a request as data. -/
def SuggestionResult.json (r : SuggestionResult) : Json :=
  .object [
    ("function_id", .string r.functionId.text),
    ("status", .string r.status.name),
    ("provider_used", .optional (fun slot => .string slot.name) r.slot?),
    ("provider_name", .optional .string r.provider?),
    ("rationale_text", .string r.rationale),
    ("improved_code", .string r.code)]

end EnergyAudit
