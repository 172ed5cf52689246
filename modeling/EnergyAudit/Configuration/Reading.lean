import EnergyAudit.Configuration.Settings
import EnergyAudit.Text.Basic
import EnergyAudit.Yaml.Shape

/-!
# Reading configurations

A configuration is a YAML document.  Fields that are not there keep their defaults, and unknown
fields do not count.  A blank text is the default configuration.

## Main definitions

* `Configuration.ofText` — the configuration that a text stands for.
-/

namespace EnergyAudit

open EnergyAudit.Text EnergyAudit.Yaml

section Readers

variable (d : Document)

/-- The fields of a provider that have been read. -/
structure ProviderFields where
  name : Option String := none
  endpoint : Option String := none
  model : Option String := none
  key : Option (Option String) := none
  keyVariable : Option (Option String) := none
  temperature : Option (Option Float32) := none
  callsPerMinute : Option (Option Nat) := none

/-- Reads a field of a provider. -/
def ProviderFields.read (f : ProviderFields) (name path : String) (node : Node) :
    Shaped ProviderFields :=
  let text := d.readText "a string" path
  let optionalText := d.readOptional text node
  match name with
  | "name" => (Document.once name f.name (text node)).map fun v => { f with name := v }
  | "endpoint" => (Document.once name f.endpoint (text node)).map fun v => { f with endpoint := v }
  | "model" => (Document.once name f.model (text node)).map fun v => { f with model := v }
  | "api_key" => (Document.once name f.key optionalText).map fun v => { f with key := v }
  | "api_key_env" =>
    (Document.once name f.keyVariable optionalText).map fun v => { f with keyVariable := v }
  | "temperature" =>
    let value := d.readOptional (fun n => (d.readFloat "f32" path n).map Float.toFloat32) node
    (Document.once name f.temperature value).map fun v => { f with temperature := v }
  | "max_requests_per_minute" =>
    let value := d.readOptional (d.readWhole UInt32.size "u32" path) node
    (Document.once name f.callsPerMinute value).map fun v => { f with callsPerMinute := v }
  | _ => (d.ignore node).map fun _ => f

/-- The provider with some fields; three of them have to be there. -/
def ProviderFields.finish (f : ProviderFields) : Shaped ProviderSettings := do
  let name ← Document.required "name" f.name
  let endpoint ← Document.required "endpoint" f.endpoint
  let model ← Document.required "model" f.model
  return ⟨name, endpoint, model, f.key.join, f.keyVariable.join, f.temperature.join,
    f.callsPerMinute.join⟩

/-- Reads a provider. -/
def readProvider (path : String) (node : Node) : Shaped ProviderSettings :=
  d.readFields "struct ProviderConfig" {} (ProviderFields.read d) ProviderFields.finish path node

/-- The providers that have been read. -/
structure SlotFields where
  primary : Option (Option ProviderSettings) := none
  secondary : Option (Option ProviderSettings) := none

/-- Reads the provider in a slot. -/
def SlotFields.read (f : SlotFields) (name path : String) (node : Node) : Shaped SlotFields :=
  let value := d.readOptional (readProvider d path) node
  match name with
  | "primary" => (Document.once name f.primary value).map fun v => { f with primary := v }
  | "secondary" => (Document.once name f.secondary value).map fun v => { f with secondary := v }
  | _ => (d.ignore node).map fun _ => f

/-- Reads the providers in their slots. -/
def readSlots (path : String) (node : Node) : Shaped SlotFields :=
  d.readFields "struct ProvidersConfig" {} (SlotFields.read d) .ok path node

/-- The fields on suggestions that have been read. -/
structure SuggestionFields where
  timeout : Option Nat := none
  order : Option (List Slot) := none
  slots : Option SlotFields := none

/-- Reads a field on suggestions. -/
def SuggestionFields.read (f : SuggestionFields) (name path : String) (node : Node) :
    Shaped SuggestionFields :=
  match name with
  | "timeout_ms" =>
    (Document.once name f.timeout (d.readUnsigned "u64" path node)).map
      fun v => { f with timeout := v }
  | "provider_order" =>
    let slot := d.readChoice (Slot.all.map fun s => (s.name, s))
    (Document.once name f.order (d.readItems slot path node)).map fun v => { f with order := v }
  | "providers" =>
    (Document.once name f.slots (readSlots d path node)).map fun v => { f with slots := v }
  | _ => (d.ignore node).map fun _ => f

/-- What is set on suggestions, with the defaults of what is not there. -/
def SuggestionFields.finish (f : SuggestionFields) : Shaped SuggestionSettings :=
  let default := SuggestionSettings.default
  .ok {
    timeout := f.timeout.getD default.timeout
    order := f.order.getD default.order
    primary? := (f.slots.bind (·.primary)).join
    secondary? := (f.slots.bind (·.secondary)).join }

/-- The fields on analyses that have been read. -/
structure AnalysisFields where
  maxSourceBytes : Option Nat := none
  electricityRate : Option Float := none

/-- Reads a field on analyses. -/
def AnalysisFields.read (f : AnalysisFields) (name path : String) (node : Node) :
    Shaped AnalysisFields :=
  match name with
  | "max_source_bytes" =>
    (Document.once name f.maxSourceBytes (d.readUnsigned "usize" path node)).map
      fun v => { f with maxSourceBytes := v }
  | "electricity_rate_per_kwh" =>
    (Document.once name f.electricityRate (d.readFloat "f64" path node)).map
      fun v => { f with electricityRate := v }
  | _ => (d.ignore node).map fun _ => f

/-- What is set on analyses, with the defaults of what is not there. -/
def AnalysisFields.finish (f : AnalysisFields) : Shaped AnalysisSettings :=
  let default := AnalysisSettings.default
  .ok ⟨f.maxSourceBytes.getD default.maxSourceBytes,
    f.electricityRate.getD default.electricityRate⟩

/-- The fields of a configuration that have been read. -/
structure ConfigurationFields where
  version : Option String := none
  analysis : Option AnalysisSettings := none
  suggestion : Option SuggestionSettings := none

/-- Reads a field of a configuration. -/
def ConfigurationFields.read (f : ConfigurationFields) (name path : String) (node : Node) :
    Shaped ConfigurationFields :=
  match name with
  | "version" =>
    (Document.once name f.version (d.readText "a string" path node)).map
      fun v => { f with version := v }
  | "analysis" =>
    let value := d.readFields "struct AnalysisConfig" {} (AnalysisFields.read d)
      AnalysisFields.finish path node
    (Document.once name f.analysis value).map fun v => { f with analysis := v }
  | "suggestion" =>
    let value := d.readFields "struct SuggestionConfig" {} (SuggestionFields.read d)
      SuggestionFields.finish path node
    (Document.once name f.suggestion value).map fun v => { f with suggestion := v }
  | _ => (d.ignore node).map fun _ => f

/-- The configuration with some fields. -/
def ConfigurationFields.finish (f : ConfigurationFields) : Shaped Configuration :=
  let default := Configuration.default
  .ok ⟨f.version.getD default.version, f.analysis.getD default.analysis,
    f.suggestion.getD default.suggestion⟩

/-- Reads a configuration. -/
def readConfiguration (path : String) (node : Node) : Shaped Configuration :=
  d.readFields "struct Config" {} (ConfigurationFields.read d) ConfigurationFields.finish path node

end Readers

/-- The configuration that a text stands for. -/
def Configuration.ofText (text : String) : Except ShapeError Configuration :=
  if isAllBlank text then .ok .default
  else
    let d := Document.ofText text
    d.read (readConfiguration d)

end EnergyAudit
