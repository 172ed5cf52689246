import EnergyAudit.Function.Record

/-!
# Results of suggestion requests

A request asks one provider after the other for a better version of a function.  Providers stand in
slots.

## Main definitions

* `Slot` — the place of a provider.
* `ProviderError` — why a provider gave no answer, with `ProviderError.message`.
* `SuggestionStatus`, `SuggestionResult` — how a request ended.
* `RequestState` — where a request stands.
-/

namespace EnergyAudit

/-- The place of a provider. -/
inductive Slot where
  | primary
  | secondary
deriving BEq, ReflBEq, LawfulBEq, DecidableEq, Repr, Inhabited

namespace Slot

/-- The name of a slot. -/
def name : Slot → String
  | primary => "primary"
  | secondary => "secondary"

/-- All slots. -/
def all : List Slot := [primary, secondary]

end Slot

/-- Why a provider gave no answer. -/
inductive ProviderError where
  /-- The provider could not be reached, or the exchange with it broke off. -/
  | network (detail : String)
  | timeout
  | status (code : Nat)
  | rateLimited
  | emptyResponse
  | malformed (detail : String)
  /-- There is no key for the provider, though a variable is named that should hold it. -/
  | missingCredentials (name : String)
deriving BEq, DecidableEq, Repr, Inhabited

/-- The error in words. -/
def ProviderError.message : ProviderError → String
  | network detail => "network error: " ++ detail
  | timeout => "request timed out"
  | status code => "provider returned HTTP " ++ toString code
  | rateLimited => "rate limited"
  | emptyResponse => "empty response"
  | malformed detail => "malformed response: " ++ detail
  | missingCredentials name => "no API key available (set " ++ name ++ ")"

/-- How a request ended. -/
inductive SuggestionStatus where
  | succeeded
  | failed
  | cancelled
deriving BEq, DecidableEq, Repr, Inhabited

namespace SuggestionStatus

/-- The name of a status. -/
def name : SuggestionStatus → String
  | succeeded => "succeeded"
  | failed => "failed"
  | cancelled => "cancelled"

end SuggestionStatus

/-- What a request gives. -/
structure SuggestionResult where
  functionId : FunctionId
  status : SuggestionStatus
  /-- The slot of the provider that answered. -/
  slot? : Option Slot
  /-- The name of the provider that answered. -/
  provider? : Option String
  rationale : String
  code : String
deriving BEq, DecidableEq, Repr, Inhabited

namespace SuggestionResult

/-- The result of a request that nobody answered. -/
def withoutAnswer (functionId : FunctionId) (status : SuggestionStatus) : SuggestionResult where
  functionId
  status
  slot? := none
  provider? := none
  rationale := ""
  code := ""

/-- Whether somebody answered. -/
def isSuccess (r : SuggestionResult) : Bool := r.status == .succeeded

end SuggestionResult

/-- Where a request stands. -/
inductive RequestState where
  | idle
  | promptBuilt
  /-- The provider in a slot is asked. -/
  | awaiting (slot : Slot)
  | succeeded
  | failed
  | cancelled
deriving BEq, DecidableEq, Repr, Inhabited

namespace RequestState

/-- The name of a state. -/
def name : RequestState → String
  | idle => "Idle"
  | promptBuilt => "PromptBuilt"
  | awaiting .primary => "AwaitingPrimary"
  | awaiting .secondary => "AwaitingSecondary"
  | succeeded => "Succeeded"
  | failed => "Failed"
  | cancelled => "Cancelled"

/-- The state in which a request with some status ends. -/
def ofStatus : SuggestionStatus → RequestState
  | .succeeded => succeeded
  | .failed => failed
  | .cancelled => cancelled

end RequestState

end EnergyAudit
