import EnergyAudit.Configuration.Settings
import EnergyAudit.Decimal.Text
import EnergyAudit.Text.Basic
import EnergyAudit.Text.Quoted
import EnergyAudit.Url.Parse

/-!
# Checking configurations

## Main definitions

* `ConfigurationFault` — what cannot be set, with `ConfigurationFault.message`.
* `Configuration.check` — the first fault of a configuration.
-/

namespace EnergyAudit

open EnergyAudit.Decimal EnergyAudit.Text EnergyAudit.Url

/-- What cannot be set. -/
inductive ConfigurationFault where
  | noSourceBytes
  | electricityRate (rate : Float)
  | noTimeout
  | repeatedSlot (slot : Slot)
  | blankModel (slot : Slot)
  | endpoint (slot : Slot) (text : String) (error : UrlError)
  | noCalls (slot : Slot)

/-- The fault in words. -/
def ConfigurationFault.message : ConfigurationFault → String
  | .noSourceBytes => "analysis.max_source_bytes must be greater than 0"
  | .electricityRate rate =>
    "analysis.electricity_rate_per_kwh must be a non-negative number, got " ++ plainText rate
  | .noTimeout => "suggestion.timeout_ms must be greater than 0"
  | .repeatedSlot slot => "suggestion.provider_order lists " ++ slot.name ++ " more than once"
  | .blankModel slot => "providers." ++ slot.name ++ ".model must not be empty"
  | .endpoint slot text error =>
    "providers." ++ slot.name ++ ".endpoint " ++ quoted text ++ " is invalid: " ++
      error.message
  | .noCalls slot =>
    "providers." ++ slot.name ++ ".max_requests_per_minute must be greater than 0"

/-- The first slot that repeats one before it. -/
def firstRepeated? (before : List Slot) : List Slot → Option Slot
  | [] => none
  | slot :: slots =>
    if before.contains slot then some slot else firstRepeated? (before ++ [slot]) slots

/-- The fault of a provider in a slot. -/
def ProviderSettings.fault? (p : ProviderSettings) (slot : Slot) : Option ConfigurationFault :=
  if isAllBlank p.model then some (.blankModel slot)
  else match Url.parse p.endpoint with
    | .error e => some (.endpoint slot p.endpoint e)
    | .ok _ => if p.callsPerMinute? == some 0 then some (.noCalls slot) else none

/-- The first fault of what is set on suggestions. -/
def SuggestionSettings.fault? (s : SuggestionSettings) : Option ConfigurationFault :=
  if s.timeout == 0 then some .noTimeout
  else match firstRepeated? [] s.order with
    | some slot => some (.repeatedSlot slot)
    | none => Slot.all.findSome? fun slot => (s.provider? slot).bind (·.fault? slot)

/-- The first fault of a configuration. -/
def Configuration.fault? (c : Configuration) : Option ConfigurationFault :=
  let rate := c.analysis.electricityRate
  if c.analysis.maxSourceBytes == 0 then some .noSourceBytes
  else if !rate.isFinite || rate < 0.0 then some (.electricityRate rate)
  else c.suggestion.fault?

/-- Refuses a configuration with a fault. -/
def Configuration.check (c : Configuration) : Except ConfigurationFault Unit :=
  match c.fault? with
  | some fault => .error fault
  | none => .ok ()

end EnergyAudit
