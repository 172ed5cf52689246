import EnergyAudit.Analysis.Language
import EnergyAudit.Analysis.Report
import Std.Data.HashMap

/-!
# Sessions

A source text with all that is derived from it: its functions, their ranking, and when it was last
asked about.

## Main definitions

* `Session` — with `Session.submit`.
* `Session.hotspots`, `Session.report` — the functions by rank.
* `Session.select`, `Session.scoreFor?` — one function.
* `analyze` — the report on a text.
-/

namespace EnergyAudit

/-- What an analysis is given beside a source. -/
structure AnalysisSettings where
  maxSourceBytes : Nat
  /-- The price of a kilowatt hour. -/
  electricityRate : Float
deriving BEq, Inhabited

/-- The settings where none are given. -/
def AnalysisSettings.default : AnalysisSettings := ⟨defaultSizeLimit, defaultElectricityRate⟩

/-- A source with its functions.  Times are in milliseconds. -/
structure Session where
  unit : SourceUnit
  /-- The functions in the order of the source. -/
  records : List FunctionRecord
  /-- The scores in the order of their ranks. -/
  scores : List HotspotScore
  /-- The places of the functions in that order, by their ids. -/
  index : Std.HashMap FunctionId Nat
  electricityRate : Float
  createdAt : Nat
  lastAccess : Nat

namespace Session

/-- The session of a source with known functions. -/
def ofRecords (u : SourceUnit) (records : List FunctionRecord) (electricityRate : Float)
    (now : Nat) : Session where
  unit := u
  records
  scores := rankRecords records
  index := .ofList (records.zipIdx.map fun (r, place) => (r.id, place))
  electricityRate
  createdAt := now
  lastAccess := now

/-- Analyzes a source. -/
def submit (u : SourceUnit) (settings : AnalysisSettings) (now : Nat) :
    Except AnalysisError Session :=
  (u.records settings.maxSourceBytes).map fun records =>
    ofRecords u records settings.electricityRate now

/-- The function with an id. -/
def record? (s : Session) (id : FunctionId) : Option FunctionRecord :=
  s.index[id]?.bind fun place => s.records[place]?

/-- Every function with its score, by rank. -/
def hotspots (s : Session) : List Hotspot :=
  s.scores.filterMap fun score =>
    (s.record? score.functionId).map fun r => .ofRecord r score s.electricityRate

/-- The report on the source. -/
def report (s : Session) : AnalysisReport where
  summary :=
    { filename := s.unit.filename
      language := s.unit.language
      functionCount := s.records.length
      hotspotCount := s.hotspots.countP Hotspot.isAboveBaseline
      electricityRate := s.electricityRate
      note := estimateNote }
  hotspots := s.hotspots

/-- The function with an id, which has to be there. -/
def select (s : Session) (id : FunctionId) : Except AnalysisError FunctionRecord :=
  match s.record? id with
  | some r => .ok r
  | none => .error (.notFound id)

/-- The first score of a function with an id. -/
def scoreFor? (s : Session) (id : FunctionId) : Option HotspotScore :=
  s.scores.find? (·.functionId == id)

/-! ### Age -/

/-- The session after it was asked about at some time.  Asking for hotspots, for a report, for a
function by its id or for a suggestion counts; asking for scores does not. -/
def touched (s : Session) (now : Nat) : Session := { s with lastAccess := now }

/-- How long ago the session was made. -/
def age (s : Session) (now : Nat) : Nat := now - s.createdAt

/-- For how long nobody has asked about the session. -/
def idleFor (s : Session) (now : Nat) : Nat := now - s.lastAccess

/-- Whether nobody has asked about the session for so long. -/
def isExpired (s : Session) (maxIdle now : Nat) : Bool := maxIdle ≤ s.idleFor now

end Session

/-- The report on a Python text. -/
def analyze (text : String) (settings : AnalysisSettings) : Except AnalysisError AnalysisReport :=
  (Session.submit ⟨text, "python", defaultFilename⟩ settings 0).map Session.report

end EnergyAudit
