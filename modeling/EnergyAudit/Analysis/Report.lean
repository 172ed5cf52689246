import EnergyAudit.Function.Record
import EnergyAudit.Score.Energy
import EnergyAudit.Score.Ranking
import EnergyAudit.Score.Reason

/-!
# Reports

What is told of the functions of a source.

## Main definitions

* `Hotspot` — a function in its place of the ranking.
* `AnalysisReport` — all functions with a summary.
* `programVersion` — the version that the program names.
-/

namespace EnergyAudit

/-- A function in its place of the ranking. -/
structure Hotspot where
  functionId : FunctionId
  /-- The name after those of the definitions around it. -/
  name : String
  startLine : Nat
  endLine : Nat
  score : UInt64
  rank : Nat
  category : Category
  reasons : List String
  energy : EnergyEstimate
  source : String
deriving BEq, Inhabited

/-- A function with its score, at a price of electricity. -/
def Hotspot.ofRecord (r : FunctionRecord) (s : HotspotScore) (ratePerKwh : Float) : Hotspot where
  functionId := s.functionId
  name := r.qualifiedName
  startLine := r.startLine
  endLine := r.endLine
  score := s.score
  rank := s.rank
  category := r.category
  reasons := r.reasons
  energy := .ofScore s.score ratePerKwh
  source := r.source

/-- Whether a function scores above the least. -/
def Hotspot.isAboveBaseline (h : Hotspot) : Bool := baselineScore < h.score

/-- What a report says of a source as a whole. -/
structure ReportSummary where
  filename : String
  language : String
  functionCount : Nat
  /-- How many functions score above the least. -/
  hotspotCount : Nat
  electricityRate : Float
  note : String
deriving BEq, Inhabited

/-- The functions of a source by rank, with a summary. -/
structure AnalysisReport where
  summary : ReportSummary
  hotspots : List Hotspot
deriving BEq, Inhabited

/-- The version that the program names in reports, on its pages and in its requests. -/
def programVersion : String := "0.1.0"

end EnergyAudit
