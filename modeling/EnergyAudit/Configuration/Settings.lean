import EnergyAudit.Analysis.Session
import EnergyAudit.Json.Value
import EnergyAudit.Suggestion.Result

/-!
# Configurations

A configuration sets the limits of an analysis, the providers of suggestions with their keys and
limits, and the order in which they are asked.

## Main definitions

* `ProviderSettings`, `SuggestionSettings`, `Configuration` — with `Configuration.default`.
* `ProviderSettings.key?` — the key of a provider.
* `Configuration.json` — a configuration as data.
-/

namespace EnergyAudit

/-- One provider: where it is reached, what is asked for, and how often. -/
structure ProviderSettings where
  name : String
  endpoint : String
  model : String
  /-- The key itself. -/
  key? : Option String
  /-- The environment variable that holds the key. -/
  keyVariable? : Option String
  temperature? : Option Float32
  /-- The calls that are granted in any minute. -/
  callsPerMinute? : Option Nat

/-- The key of a provider: the one that is set, else what the variable holds.  An empty text is no
key. -/
def ProviderSettings.resolvedKey? (p : ProviderSettings) (environment : String → Option String) :
    Option String :=
  let given? := p.key?.filter (!·.isEmpty)
  given?.or ((p.keyVariable?.bind environment).filter (!·.isEmpty))

/-- How suggestions are asked for. -/
structure SuggestionSettings where
  /-- How long a provider may take, in milliseconds. -/
  timeout : Nat
  /-- The slots in the order in which they are tried. -/
  order : List Slot
  primary? : Option ProviderSettings
  secondary? : Option ProviderSettings

namespace SuggestionSettings

/-- What is set unless something else is said. -/
def default : SuggestionSettings := ⟨20000, Slot.all, none, none⟩

/-- The provider in a slot. -/
def provider? (s : SuggestionSettings) : Slot → Option ProviderSettings
  | .primary => s.primary?
  | .secondary => s.secondary?

/-- The environment variables that hold keys. -/
def keyVariables (s : SuggestionSettings) : List String :=
  (s.primary?.toList ++ s.secondary?.toList).filterMap (·.keyVariable?)

end SuggestionSettings

/-- A configuration as a whole. -/
structure Configuration where
  version : String
  analysis : AnalysisSettings
  suggestion : SuggestionSettings

/-- What is set unless something else is said. -/
def Configuration.default : Configuration := ⟨"", .default, .default⟩

/-! ### As data -/

/-- A member that is left out if it is not set. -/
def optionalMember {α : Type} (name : String) (f : α → Json) (value : Option α) :
    List (String × Json) :=
  value.toList.map fun a => (name, f a)

/-- A provider as data; what is not set is left out. -/
def ProviderSettings.json (p : ProviderSettings) : Json :=
  .object (
    [("name", .string p.name), ("endpoint", .string p.endpoint), ("model", .string p.model)] ++
    optionalMember "api_key" .string p.key? ++
    optionalMember "api_key_env" .string p.keyVariable? ++
    optionalMember "temperature" (fun t => .float t.toFloat) p.temperature? ++
    optionalMember "max_requests_per_minute" .nat p.callsPerMinute?)

/-- The limits of an analysis as data. -/
def AnalysisSettings.json (s : AnalysisSettings) : Json :=
  .object [
    ("max_source_bytes", .nat s.maxSourceBytes),
    ("electricity_rate_per_kwh", .float s.electricityRate)]

/-- How suggestions are asked for as data. -/
def SuggestionSettings.json (s : SuggestionSettings) : Json :=
  .object [
    ("timeout_ms", .nat s.timeout),
    ("provider_order", .strings (s.order.map Slot.name)),
    ("providers", .object [
      ("primary", .optional ProviderSettings.json s.primary?),
      ("secondary", .optional ProviderSettings.json s.secondary?)])]

/-- A configuration as data. -/
def Configuration.json (c : Configuration) : Json :=
  .object [
    ("version", .string c.version),
    ("analysis", c.analysis.json),
    ("suggestion", c.suggestion.json)]

end EnergyAudit
