import EnergyAudit.Log.Line
import EnergyAudit.Suggestion.Answer
import EnergyAudit.Suggestion.Ledger
import EnergyAudit.Suggestion.Result

/-!
# Suggestion requests

A request puts one prompt to one provider after the other until somebody answers.  It goes on in
steps, and with each step it may change the ledger of calls.  When the turn of a provider comes,
the request ends if it is no longer wanted; else it asks the ledger for the call.  A call that is
granted ends in some way: with an answer the request has succeeded, and after a failure the turn of
the next provider comes.  A request that is given up during a call notes nothing more in the ledger.

A call is waited for until the provider says something or the time for it is up.  Whether the
request has been given up is looked at first when the wait is over.

What surrounds a request is left open: when it is given up, what time it is, what changes while the
turn of a provider is taken, and what a provider does when it is called.

## Main definitions

* `Installation` — a provider in its slot.
* `CallEnd` — how a call ended.
* `CallCourse` — what comes of a call in the course of time, with `CallCourse.ending`.
* `Request` — a request, with the steps `Request.takeTurn` and `Request.endCall`.
* `Surroundings` — what a request depends on; `Situation` — what it finds around it.
* `Progress.run` — a request from a step to its end.
-/

namespace EnergyAudit

open EnergyAudit.Text

/-- A provider in its slot. -/
structure Installation (π : Type) where
  slot : Slot
  /-- The name under which the ledger knows the provider. -/
  name : String
  provider : π
deriving Repr

/-- How a call ended. -/
inductive CallEnd where
  /-- The request was given up during the call. -/
  | cancelled
  | answered (text : String)
  | failed (error : ProviderError)
deriving BEq, DecidableEq, Repr, Inhabited

/-- The answer or the error that a call gave, unless the request was given up; a blank answer is
none. -/
def CallEnd.outcome : CallEnd → Option (Except ProviderError String)
  | .cancelled => none
  | .answered text => some (if isAllBlank text then .error .emptyResponse else .ok text)
  | .failed error => some (.error error)

/-- The end of a call in which the provider said something. -/
def CallEnd.ofReply : Except ProviderError String → CallEnd
  | .ok text => .answered text
  | .error error => .failed error

/-- What comes of a call in the course of time, which counts from its start in milliseconds. -/
structure CallCourse where
  /-- After how long the provider says something, and what that is, if it ever does. -/
  reply? : Option (Nat × Except ProviderError String)
  /-- After how long the request is given up, if it ever is. -/
  givenUp? : Option Nat

namespace CallCourse

/-- Whether the request has been given up by some time. -/
def isGivenUp (c : CallCourse) (time : Nat) : Bool :=
  match c.givenUp? with
  | some givenUp => givenUp ≤ time
  | none => false

/-- How long the call is waited for. -/
def wait (c : CallCourse) (timeout : Nat) : Nat :=
  match c.reply? with
  | some (delay, _) => min delay timeout
  | none => timeout

/-- What has come of the call when the wait is over; a reply that comes with the timeout counts. -/
def reply (c : CallCourse) (timeout : Nat) : Except ProviderError String :=
  match c.reply? with
  | some (delay, reply) => if delay ≤ timeout then reply else .error .timeout
  | none => .error .timeout

/-- How the call ends.  That the request was given up goes before what has come of the call. -/
def ending (c : CallCourse) (timeout : Nat) : CallEnd :=
  if c.isGivenUp (c.wait timeout) then .cancelled else .ofReply (c.reply timeout)

end CallCourse

/-- What happens in the course of a request. -/
inductive RequestEvent where
  | entered (previous next : RequestState)
  | attemptFailed (provider : String) (slot : Slot) (error : ProviderError)
  | answered (provider : String) (slot : Slot) (hasCode : Bool)
  | givenUp (provider : String)
deriving BEq, DecidableEq, Repr

namespace RequestEvent

/-- The topic of all lines on requests. -/
def topic : String := "ecocode::suggest"

/-- What is told of an event in a request for a function. -/
def logLine (functionId : FunctionId) : RequestEvent → LogLine
  | entered previous next =>
    ⟨.debug, topic, "suggestion state",
      [bareField "function" functionId.text, bareField "from" previous.name,
        bareField "to" next.name]⟩
  | attemptFailed provider slot error =>
    ⟨.warn, topic, "provider attempt failed",
      [bareField "function" functionId.text, quotedField "provider" provider,
        bareField "slot" slot.name, bareField "error" error.message]⟩
  | answered provider slot hasCode =>
    ⟨.info, topic, "suggestion received",
      [bareField "function" functionId.text, quotedField "provider" provider,
        bareField "slot" slot.name, bareField "has_code" (toString hasCode)]⟩
  | givenUp provider =>
    ⟨.info, topic, "suggestion cancelled",
      [bareField "function" functionId.text, quotedField "provider" provider]⟩

end RequestEvent

/-- What a request does next. -/
inductive Stage (π : Type) where
  /-- The turn of the next of these providers comes. -/
  | turn (waiting : List (Installation π))
  /-- A provider is called; these come after it. -/
  | calling (installation : Installation π) (waiting : List (Installation π))
  | done (result : SuggestionResult)

/-- A bound for the steps that are still to come. -/
def Stage.stepsLeft {π : Type} : Stage π → Nat
  | turn waiting => 2 * waiting.length + 1
  | calling _ waiting => 2 * waiting.length + 2
  | done _ => 0

/-- A request for a better version of a function. -/
structure Request (π : Type) where
  functionId : FunctionId
  prompt : String
  /-- How long a provider may take, in milliseconds. -/
  timeout : Nat
  state : RequestState
  stage : Stage π
  /-- What has happened so far, the latest first. -/
  events : List RequestEvent

namespace Request

variable {π : Type}

/-- Adds an event. -/
def note (r : Request π) (event : RequestEvent) : Request π :=
  { r with events := event :: r.events }

/-- Enters a state. -/
def enter (r : Request π) (next : RequestState) : Request π :=
  { r.note (.entered r.state next) with state := next }

/-- A request for a function, before the turn of the first provider. -/
def start (functionId : FunctionId) (prompt : String) (timeout : Nat)
    (providers : List (Installation π)) : Request π :=
  enter ⟨functionId, prompt, timeout, .idle, .turn providers, []⟩ .promptBuilt

/-- Ends a request that nobody answered. -/
def finish (r : Request π) (status : SuggestionStatus) : Request π :=
  { r.enter (.ofStatus status) with
    stage := .done (.withoutAnswer r.functionId status) }

/-- Notes that a provider gave no answer; the turn of the next one comes. -/
def passOn (r : Request π) (i : Installation π) (error : ProviderError)
    (waiting : List (Installation π)) : Request π :=
  { r.note (.attemptFailed i.name i.slot error) with stage := .turn waiting }

/-- Ends a request with an answer. -/
def succeed (r : Request π) (i : Installation π) (text : String) : Request π :=
  let answer := Answer.ofText text
  { (r.enter .succeeded).note (.answered i.name i.slot (!answer.code.isEmpty)) with
    stage := .done
      { functionId := r.functionId
        status := .succeeded
        slot? := some i.slot
        provider? := some i.name
        rationale := answer.rationale
        code := answer.code } }

/-- The turn of the next provider comes. -/
def takeTurn (r : Request π) (isCancelled : Bool) (now : Nat) (ledger : Ledger) :
    Request π × Ledger :=
  match r.stage with
  | .turn [] => (r.finish .failed, ledger)
  | .turn (i :: waiting) =>
    if isCancelled then (r.finish .cancelled, ledger)
    else
      let r := r.enter (.awaiting i.slot)
      match ledger.acquire i.name now with
      | (true, ledger) => ({ r with stage := .calling i waiting }, ledger)
      | (false, ledger) => (r.passOn i .rateLimited waiting, ledger)
  | _ => (r, ledger)

/-- A call ends. -/
def endCall (r : Request π) (ending : CallEnd) (ledger : Ledger) : Request π × Ledger :=
  match r.stage with
  | .calling i waiting =>
    match ending.outcome with
    | none =>
      let r := r.enter .cancelled
      ({ r.note (.givenUp i.name) with
          stage := .done (.withoutAnswer r.functionId .cancelled) }, ledger)
    | some (.ok text) => (r.succeed i text, ledger.recordSuccess i.name)
    | some (.error error) => (r.passOn i error waiting, ledger.recordFailure i.name)
  | _ => (r, ledger)

/-- The result of a request that has ended. -/
def result? (r : Request π) : Option SuggestionResult :=
  match r.stage with
  | .done result => some result
  | _ => none

/-- The lines on a request, in the order in which they were written. -/
def log (r : Request π) : List LogLine := r.events.reverse.map (·.logLine r.functionId)

end Request

/-- What a request depends on.  All that may change is a value of type `σ`. -/
structure Surroundings (σ π : Type) where
  /-- The time, in nanoseconds. -/
  now : σ → Nat
  /-- Whether the request is no longer wanted. -/
  isCancelled : σ → Bool
  /-- What all that may change has become when the turn of a provider is over. -/
  elapse : σ → σ
  /-- Puts a prompt to a provider. -/
  call : Installation π → String → σ → CallCourse × σ

/-- What a request finds around it: the ledger and all that may change. -/
structure Situation (σ : Type) where
  ledger : Ledger
  world : σ

/-- A request with the ledger and all that surrounds it. -/
structure Progress (σ π : Type) where
  request : Request π
  ledger : Ledger
  world : σ

namespace Progress

variable {σ π : Type}

/-- One step of a request. -/
def step (s : Surroundings σ π) (p : Progress σ π) : Progress σ π :=
  match p.request.stage with
  | .turn _ =>
    let (request, ledger) := p.request.takeTurn (s.isCancelled p.world) (s.now p.world) p.ledger
    ⟨request, ledger, s.elapse p.world⟩
  | .calling i _ =>
    let (course, world) := s.call i p.request.prompt p.world
    let (request, ledger) := p.request.endCall (course.ending p.request.timeout) p.ledger
    ⟨request, ledger, world⟩
  | .done _ => p

/-- So many steps of a request. -/
def steps (s : Surroundings σ π) : Nat → Progress σ π → Progress σ π
  | 0, p => p
  | n + 1, p => steps s n (p.step s)

/-- A request from a step to its end. -/
def run (s : Surroundings σ π) (p : Progress σ π) : Progress σ π :=
  p.steps s p.request.stage.stepsLeft

end Progress

end EnergyAudit
