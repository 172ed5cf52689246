import EnergyAudit.Configuration.Check
import EnergyAudit.Suggestion.Prompt
import EnergyAudit.Suggestion.Request

/-!
# Orchestrators

An orchestrator holds the providers that requests turn to, in the order in which their slots were
first filled.  It is made from a configuration slot by slot; each provider that can be made is
installed, and its limit is set in the ledger at once.

## Main definitions

* `Orchestrator` — with `Orchestrator.install` and `Orchestrator.slots`.
* `Orchestrator.ofSettings` — the orchestrator of a configuration.
* `Orchestrator.request` — a request for a function.
* `Session.suggestIn`, `Session.suggest` — a request for a function of a session.
-/

namespace EnergyAudit

open EnergyAudit.Text

/-- The providers that requests turn to. -/
structure Orchestrator (π : Type) where
  installations : List (Installation π)
  /-- How long a provider may take, in milliseconds. -/
  timeout : Nat

/-- Puts a provider in its slot: in the place of the one that is there, or at the end. -/
def installIn {π : Type} (i : Installation π) : List (Installation π) → List (Installation π)
  | [] => [i]
  | j :: others => if j.slot == i.slot then i :: others else j :: installIn i others

namespace Orchestrator

variable {π : Type}

/-- An orchestrator without providers. -/
def empty (timeout : Nat) : Orchestrator π := ⟨[], timeout⟩

/-- Puts a provider in its slot. -/
def install (o : Orchestrator π) (i : Installation π) : Orchestrator π :=
  { o with installations := installIn i o.installations }

/-- The slots in the order in which they are tried. -/
def slots (o : Orchestrator π) : List Slot := o.installations.map (·.slot)

/-! ### From a configuration -/

/-- Why there is no orchestrator. -/
inductive AssemblyError where
  | repeatedSlot (slot : Slot)
  /-- The provider of a slot cannot be made. -/
  | unusableSlot (slot : Slot) (error : ProviderError)
  | noProviders
deriving BEq, DecidableEq, Repr

/-- The error in words. -/
def AssemblyError.message : AssemblyError → String
  | repeatedSlot slot => (ConfigurationFault.repeatedSlot slot).message
  | unusableSlot slot error =>
    "failed to create " ++ slot.name ++ " provider: " ++ error.message
  | noProviders =>
    "no suggestion providers configured (add suggestion.providers to the config)"

/-- What has been made of a configuration: an orchestrator, the ledger with the limits of its
providers, and the lines that were written. -/
structure Assembly (π : Type) where
  orchestrator : Orchestrator π
  ledger : Ledger
  log : List LogLine

/-- The line on a slot without a provider. -/
def unconfiguredLine (slot : Slot) : LogLine :=
  ⟨.warn, RequestEvent.topic, "provider slot listed in provider_order but not configured",
    [bareField "slot" slot.name]⟩

/-- Installs a provider in its slot, after its limit has been set. -/
def Assembly.install (a : Assembly π) (slot : Slot) (p : ProviderSettings) (provider : π) :
    Assembly π :=
  { a with
    ledger := a.ledger.setLimit p.name p.callsPerMinute?
    orchestrator := a.orchestrator.install ⟨slot, p.name, provider⟩ }

/-- Adds the provider of a slot.  Nothing is done for one that cannot be made. -/
def Assembly.add (a : Assembly π) (make : ProviderSettings → Except ProviderError π)
    (s : SuggestionSettings) (slot : Slot) : Option AssemblyError × Assembly π :=
  match s.provider? slot with
  | none => (none, { a with log := a.log ++ [unconfiguredLine slot] })
  | some p =>
    match make p with
    | .error error => (some (.unusableSlot slot error), a)
    | .ok provider => (none, a.install slot p provider)

/-- Adds the providers of slots that come after others.  This ends at the first slot that repeats
one before it, and at the first whose provider cannot be made. -/
def Assembly.addAll (make : ProviderSettings → Except ProviderError π) (s : SuggestionSettings) :
    List Slot → List Slot → Assembly π → Option AssemblyError × Assembly π
  | _, [], a => (none, a)
  | before, slot :: slots, a =>
    if before.contains slot then (some (.repeatedSlot slot), a)
    else
      match a.add make s slot with
      | (some error, a) => (some error, a)
      | (none, a) => addAll make s (before ++ [slot]) slots a

/-- The orchestrator of a configuration, if there is one, with the ledger and the lines that were
written.  The ledger keeps the limits that were set also when there is none. -/
def ofSettings (make : ProviderSettings → Except ProviderError π) (s : SuggestionSettings)
    (ledger : Ledger) : Option AssemblyError × Assembly π :=
  match Assembly.addAll make s [] s.order ⟨empty s.timeout, ledger, []⟩ with
  | (some error, a) => (some error, a)
  | (none, a) =>
    (if a.orchestrator.installations.isEmpty then some .noProviders else none, a)

/-! ### Requests -/

/-- The language in which prompts show functions. -/
def promptLanguage : String := "python"

/-- A request for a function. -/
def request (o : Orchestrator π) (record : FunctionRecord) (score : HotspotScore) : Request π :=
  .start record.id (prompt record score promptLanguage) o.timeout o.installations

end Orchestrator

/-- A request for a function of a session from its start to its end, in some situation.  A function
that is not in the session makes no request. -/
def Session.suggestIn {σ π : Type} (s : Session) (id : FunctionId) (o : Orchestrator π)
    (around : Surroundings σ π) : StateM (Situation σ) (Except AnalysisError (Request π)) :=
  ExceptT.run do
    let record ← MonadExcept.ofExcept (s.select id)
    let score ← match s.scoreFor? id with
      | some score => pure score
      | none => throw (.notFound id)
    modifyGet fun c =>
      let p := Progress.run around ⟨o.request record score, c.ledger, c.world⟩
      (p.request, ⟨p.ledger, p.world⟩)

/-- A request for a function of a session, with the ledger and the world that it leaves. -/
def Session.suggest {σ π : Type} (s : Session) (id : FunctionId) (o : Orchestrator π)
    (around : Surroundings σ π) (ledger : Ledger) (world : σ) :
    Except AnalysisError (Progress σ π) :=
  let (request, left) := (s.suggestIn id o around).run ⟨ledger, world⟩
  request.map fun r => ⟨r, left.ledger, left.world⟩

end EnergyAudit
