import EnergyAudit.Proofs.Request.Happening

/-!
# The turns of a request

A request takes the providers one after the other.  In its turn a provider is refused by the ledger,
fails, answers, or is being called when the request is given up; the request ends with an answer,
when it is given up or no longer wanted, or after the last provider.  This is told here provider by
provider, and the steps of a request from its first turn to its end come to the same.

## Main definitions

* `Turn`, `Verdict` — the turn of one provider, and what it comes to.
* `Ending` — how a request ends.
* `Surroundings.passage` — the turns of providers that are waiting.
* `Progress.history` — what happens in some steps.

## Main results

* `Progress.ledger_steps`, `Progress.counts_steps` — the ledger after some steps is the one before
  with what happened.
* `Progress.steps_eq_passage` — the steps of a request are the turns of its providers.
* `Progress.run_eq_passage`, `Progress.runHistory_eq_passage` — so is a request from its start to
  its end.
* `Request.transitions_undergo`, `Request.result?_undergo` — the states and the result of a request.
-/

namespace EnergyAudit

variable {σ π : Type}

/-! ### Steps to the end -/

namespace Progress

/-- What happens in some steps. -/
def history (s : Surroundings σ π) : Nat → Progress σ π → List (Happening π)
  | 0, _ => []
  | n + 1, p => p.request.happenings (p.nextStep s) p.ledger ++ history s n (p.step s)

/-- The ledger after some steps is the ledger before them with what happened. -/
theorem ledger_steps (s : Surroundings σ π) {n : Nat} : ∀ {p : Progress σ π},
    (p.steps s n).ledger = p.ledger.after (operations (p.history s n)) := by
  induction n with
  | zero => intro p; rfl
  | succ n ih =>
    intro p
    have hledger : (p.step s).ledger = (p.request.perform (p.nextStep s) p.ledger).2 :=
      congrArg Prod.snd (p.step_eq_perform s)
    rw [steps, history, operations_append, Ledger.after_append, ih, hledger,
      Request.perform_ledger]

/-- The counts after some steps are the counts before them with what happened. -/
theorem counts_steps (s : Surroundings σ π) (provider : String) {n : Nat} : ∀ {p : Progress σ π},
    (p.steps s n).ledger.counts provider =
      (p.ledger.counts provider).plus provider (p.history s n) := by
  induction n with
  | zero => intro p; rfl
  | succ n ih =>
    intro p
    have hledger : (p.step s).ledger = (p.request.perform (p.nextStep s) p.ledger).2 :=
      congrArg Prod.snd (p.step_eq_perform s)
    rw [steps, history, CallCounts.plus_append, ih, hledger, Request.counts_perform]

/-- What happens in a request from a step to its end. -/
def runHistory (s : Surroundings σ π) (p : Progress σ π) : List (Happening π) :=
  p.history s p.request.stage.stepsLeft

theorem step_of_done (s : Surroundings σ π) {p : Progress σ π} {result : SuggestionResult}
    (hstage : p.request.stage = .done result) : p.step s = p := by
  simp only [step, hstage]

/-- A request that has ended takes no further steps. -/
theorem steps_of_done (s : Surroundings σ π) {p : Progress σ π} {result : SuggestionResult}
    (hstage : p.request.stage = .done result) (n : Nat) :
    p.steps s n = p ∧ p.history s n = [] := by
  induction n with
  | zero => exact ⟨rfl, rfl⟩
  | succ n ih =>
    rw [steps, history, step_of_done s hstage]
    refine ⟨ih.1, ?_⟩
    rw [ih.2, List.append_nil]
    simp only [nextStep, Request.happenings, hstage]

/-- A request takes one step if it has ended after that. -/
theorem steps_of_step_done (s : Surroundings σ π) {p : Progress σ π} {result : SuggestionResult}
    (hstage : (p.step s).request.stage = .done result) {n : Nat} (hn : 1 ≤ n) :
    p.steps s n = p.step s ∧ p.history s n = p.request.happenings (p.nextStep s) p.ledger := by
  obtain ⟨n, rfl⟩ : ∃ k, n = k + 1 := ⟨n - 1, by omega⟩
  obtain ⟨hsteps, hhistory⟩ := steps_of_done s hstage n
  rw [steps, history, hsteps, hhistory, List.append_nil]
  exact ⟨rfl, rfl⟩

end Progress

/-! ### Turns -/

/-- What the turn of a provider comes to. -/
inductive Verdict where
  /-- The ledger refused the call. -/
  | refused
  | failed (error : ProviderError)
  | answered (text : String)
  /-- The request was given up during the call. -/
  | abandoned
deriving DecidableEq, Repr

/-- What a call comes to. -/
def Verdict.ofOutcome : Option (Except ProviderError String) → Verdict
  | none => abandoned
  | some (.ok text) => answered text
  | some (.error error) => failed error

/-- The turn of a provider. -/
structure Turn (π : Type) where
  installation : Installation π
  /-- When the ledger was asked. -/
  now : Nat
  /-- The course of the call, if the ledger granted it. -/
  call? : Option CallCourse

namespace Turn

/-- What a turn comes to. -/
def verdict (t : Turn π) (timeout : Nat) : Verdict :=
  match t.call? with
  | none => .refused
  | some course => .ofOutcome (course.ending timeout).outcome

/-- What happens in a turn. -/
def happenings (t : Turn π) (prompt : String) (timeout : Nat) : List (Happening π) :=
  match t.call? with
  | none => [.refused t.installation t.now]
  | some course =>
    .granted t.installation t.now :: (Happening.ofStart t.installation prompt course ++
      [.ofOutcome t.installation (course.ending timeout).outcome])

end Turn

/-- How a request ends. -/
inductive Ending (π : Type) where
  | answered (i : Installation π) (text : String)
  /-- The request was given up during a call. -/
  | abandoned (i : Installation π)
  /-- The request was no longer wanted when the turn of a provider came. -/
  | cancelled
  /-- Nobody was left. -/
  | failed

/-- The status of a request that ends so. -/
def Ending.status : Ending π → SuggestionStatus
  | answered _ _ => .succeeded
  | abandoned _ => .cancelled
  | cancelled => .cancelled
  | failed => .failed

/-- The result of a request for a function that ends so. -/
def Ending.result (functionId : FunctionId) : Ending π → SuggestionResult
  | answered i text =>
    { functionId
      status := .succeeded
      slot? := some i.slot
      provider? := some i.name
      rationale := (Answer.ofText text).rationale
      code := (Answer.ofText text).code }
  | abandoned _ => .withoutAnswer functionId .cancelled
  | cancelled => .withoutAnswer functionId .cancelled
  | failed => .withoutAnswer functionId .failed

/-- The turns of some providers, how the request ended, and what was left around it. -/
structure Passage (σ π : Type) where
  turns : List (Turn π)
  ending : Ending π
  situation : Situation σ

namespace Surroundings

variable (s : Surroundings σ π) (prompt : String) (timeout : Nat)

/-- The turn of a provider that comes in some situation. -/
def turn (c : Situation σ) (i : Installation π) : Turn π where
  installation := i
  now := s.now c.world
  call? :=
    if (c.ledger.acquire i.name (s.now c.world)).1 then
      some (s.call i prompt (s.elapse c.world)).1
    else none

/-- The situation after the turn of a provider. -/
def next (c : Situation σ) (i : Installation π) : Situation σ where
  ledger := c.ledger.after (operations ((s.turn prompt c i).happenings prompt timeout))
  world :=
    if (c.ledger.acquire i.name (s.now c.world)).1 then (s.call i prompt (s.elapse c.world)).2
    else s.elapse c.world

/-- The turns of providers that are waiting in some situation. -/
def passage (c : Situation σ) : List (Installation π) → Passage σ π
  | [] => ⟨[], .failed, ⟨c.ledger, s.elapse c.world⟩⟩
  | i :: waiting =>
    if s.isCancelled c.world then ⟨[], .cancelled, ⟨c.ledger, s.elapse c.world⟩⟩
    else
      let t := s.turn prompt c i
      match t.verdict timeout with
      | .answered text => ⟨[t], .answered i text, s.next prompt timeout c i⟩
      | .abandoned => ⟨[t], .abandoned i, s.next prompt timeout c i⟩
      | .refused | .failed _ =>
        let rest := passage (s.next prompt timeout c i) waiting
        { rest with turns := t :: rest.turns }

end Surroundings

/-! ### The steps of a turn -/

namespace Request

/-- A request for which a provider has had its turn, as far as it shows in what was noted. -/
def take (r : Request π) (t : Turn π) : Request π :=
  let i := t.installation
  let awaiting := r.enter (.awaiting i.slot)
  match t.verdict r.timeout with
  | .refused => awaiting.note (.attemptFailed i.name i.slot .rateLimited)
  | .failed error => awaiting.note (.attemptFailed i.name i.slot error)
  | .answered _ | .abandoned => awaiting

/-- A request at its end. -/
def conclude (r : Request π) : Ending π → Request π
  | .answered i text => r.succeed i text
  | .abandoned i =>
    { (r.enter .cancelled).note (.givenUp i.name) with
      stage := .done (.withoutAnswer r.functionId .cancelled) }
  | .cancelled => r.finish .cancelled
  | .failed => r.finish .failed

/-- A request after some turns, and at its end. -/
def undergo (r : Request π) (turns : List (Turn π)) (ending : Ending π) : Request π :=
  (turns.foldl take r).conclude ending

@[simp] theorem take_prompt (r : Request π) (t : Turn π) : (r.take t).prompt = r.prompt := by
  simp only [take]
  split <;> rfl

@[simp] theorem take_timeout (r : Request π) (t : Turn π) : (r.take t).timeout = r.timeout := by
  simp only [take]
  split <;> rfl

@[simp] theorem take_functionId (r : Request π) (t : Turn π) :
    (r.take t).functionId = r.functionId := by
  simp only [take]
  split <;> rfl

theorem conclude_stage (r : Request π) (ending : Ending π) :
    (r.conclude ending).stage = .done (ending.result r.functionId) := by
  cases ending <;> rfl

theorem take_stage (r : Request π) (t : Turn π) (stage : Stage π) :
    { r with stage }.take t = { r.take t with stage } := by
  simp only [take]
  split <;> rfl

/-- The end of a request does not depend on the stage that it was in before. -/
theorem undergo_stage {turns : List (Turn π)} {ending : Ending π} {stage : Stage π} :
    ∀ {r : Request π}, { r with stage }.undergo turns ending = r.undergo turns ending := by
  induction turns with
  | nil => intro r; cases ending <;> rfl
  | cons t turns ih =>
    intro r
    rw [undergo, List.foldl_cons, take_stage]
    exact ih

end Request

namespace Progress

/-- A request with all around it when some turns are over and it has ended. -/
def undergo (p : Progress σ π) (q : Passage σ π) : Progress σ π :=
  ⟨p.request.undergo q.turns q.ending, q.situation.ledger, q.situation.world⟩

/-- The passage that lies before a request with some providers waiting. -/
def ahead (p : Progress σ π) (s : Surroundings σ π) (waiting : List (Installation π)) :
    Passage σ π :=
  s.passage p.request.prompt p.request.timeout ⟨p.ledger, p.world⟩ waiting

/-- Where a request stands after the turn of a provider. -/
def afterTurn (p : Progress σ π) (s : Surroundings σ π) (i : Installation π)
    (waiting : List (Installation π)) : Progress σ π :=
  let t := s.turn p.request.prompt ⟨p.ledger, p.world⟩ i
  let next := s.next p.request.prompt p.request.timeout ⟨p.ledger, p.world⟩ i
  match t.verdict p.request.timeout with
  | .answered text => ⟨(p.request.take t).conclude (.answered i text), next.ledger, next.world⟩
  | .abandoned => ⟨(p.request.take t).conclude (.abandoned i), next.ledger, next.world⟩
  | .refused | .failed _ =>
    ⟨{ p.request.take t with stage := .turn waiting }, next.ledger, next.world⟩

variable (s : Surroundings σ π) {p : Progress σ π} {i : Installation π}
  {waiting : List (Installation π)}

/-- A turn in which the ledger refuses the call takes one step. -/
theorem step_refused (hstage : p.request.stage = .turn (i :: waiting))
    (hwanted : s.isCancelled p.world = false)
    (hl : (p.ledger.acquire i.name (s.now p.world)).1 = false) :
    p.step s = p.afterTurn s i waiting ∧
      p.request.happenings (p.nextStep s) p.ledger =
        (s.turn p.request.prompt ⟨p.ledger, p.world⟩ i).happenings p.request.prompt
          p.request.timeout := by
  rcases h : p.ledger.acquire i.name (s.now p.world) with ⟨isGranted, m⟩
  obtain rfl : isGranted = false := by simpa [h] using hl
  constructor
  · simp [step, Request.takeTurn, hstage, hwanted, h, afterTurn, Surroundings.turn,
      Surroundings.next, Turn.verdict, Turn.happenings, Request.take, Request.passOn, operations,
      Happening.operation?, LedgerOperation.run]
  · simp [nextStep, Request.happenings, hstage, hwanted, h, Surroundings.turn, Turn.happenings]

/-- A turn in which the ledger grants the call takes two steps. -/
theorem step_granted (hstage : p.request.stage = .turn (i :: waiting))
    (hwanted : s.isCancelled p.world = false)
    (hl : (p.ledger.acquire i.name (s.now p.world)).1 = true) :
    (p.step s).step s = p.afterTurn s i waiting ∧
      p.request.happenings (p.nextStep s) p.ledger ++
          (p.step s).request.happenings ((p.step s).nextStep s) (p.step s).ledger =
        (s.turn p.request.prompt ⟨p.ledger, p.world⟩ i).happenings p.request.prompt
          p.request.timeout := by
  rcases h : p.ledger.acquire i.name (s.now p.world) with ⟨isGranted, m⟩
  obtain rfl : isGranted = true := by simpa [h] using hl
  have hfirst : p.step s =
      ⟨{ p.request.enter (.awaiting i.slot) with stage := .calling i waiting }, m,
        s.elapse p.world⟩ := by
    simp [step, Request.takeTurn, hstage, hwanted, h]
  have hgranted : p.request.happenings (p.nextStep s) p.ledger =
      [.granted i (s.now p.world)] := by
    simp [nextStep, Request.happenings, hstage, hwanted, h]
  -- The ledger of the second step is that of the turn once the call has been granted.
  have hledger : p.ledger.after (operations [Happening.granted i (s.now p.world)]) = m := by
    simp [operations, Happening.operation?, LedgerOperation.run, h]
  rw [hfirst, hgranted]
  rcases hcall : s.call i p.request.prompt (s.elapse p.world) with ⟨course, world⟩
  constructor
  · have hturn : s.turn p.request.prompt ⟨p.ledger, p.world⟩ i =
        ⟨i, s.now p.world, some course⟩ := by
      simp [Surroundings.turn, h, hcall]
    have hnext : s.next p.request.prompt p.request.timeout ⟨p.ledger, p.world⟩ i =
        ⟨m.after (operations [.ofOutcome i (course.ending p.request.timeout).outcome]), world⟩ := by
      have hhappens : (s.turn p.request.prompt ⟨p.ledger, p.world⟩ i).happenings p.request.prompt
          p.request.timeout = [.granted i (s.now p.world)] ++
            (Happening.ofStart i p.request.prompt course ++
              [.ofOutcome i (course.ending p.request.timeout).outcome]) := by
        rw [hturn]
        rfl
      rw [Surroundings.next, hhappens, operations_append, Ledger.after_append, hledger,
        operations_append, Ledger.after_append, Happening.after_ofStart, h, hcall]
      rfl
    unfold afterTurn
    rw [hturn, hnext]
    simp only [step, Request.endCall, Request.enter, Request.note, hcall, Turn.verdict]
    rcases hend : (course.ending p.request.timeout).outcome with _ | error | text <;>
      simp only [Verdict.ofOutcome, Request.take, Turn.verdict, hend] <;> rfl
  · simp [nextStep, Request.happenings, Request.enter, Request.note, h, hcall,
      Surroundings.turn, Turn.happenings]

/-- The turn of a provider takes one step or two. -/
theorem exists_steps_eq_afterTurn (hstage : p.request.stage = .turn (i :: waiting))
    (hwanted : s.isCancelled p.world = false) :
    ∃ k ≤ 2, ∀ n, p.steps s (n + k) = (p.afterTurn s i waiting).steps s n ∧
      p.history s (n + k) =
        (s.turn p.request.prompt ⟨p.ledger, p.world⟩ i).happenings p.request.prompt
          p.request.timeout ++ (p.afterTurn s i waiting).history s n := by
  cases hl : (p.ledger.acquire i.name (s.now p.world)).1 with
  | false =>
    obtain ⟨hstep, hhappens⟩ := step_refused s hstage hwanted hl
    refine ⟨1, by omega, fun n => ?_⟩
    rw [steps, history, hstep, hhappens]
    exact ⟨rfl, rfl⟩
  | true =>
    obtain ⟨hstep, hhappens⟩ := step_granted s hstage hwanted hl
    refine ⟨2, by omega, fun n => ?_⟩
    rw [steps, steps, history, history, hstep, ← List.append_assoc, hhappens]
    exact ⟨rfl, rfl⟩

/-- The steps of a request from the turn of the next provider to its end are the turns of the
providers that are waiting. -/
theorem steps_eq_passage : ∀ {waiting : List (Installation π)} {n : Nat} {p : Progress σ π},
    p.request.stage = .turn waiting → 2 * waiting.length + 1 ≤ n →
      p.steps s n = p.undergo (p.ahead s waiting) ∧
        p.history s n = (p.ahead s waiting).turns.flatMap
          (·.happenings p.request.prompt p.request.timeout) := by
  -- The induction is on the providers that are waiting: a turn takes one step or two and leaves one
  -- provider fewer, and steps that are left over after the end change nothing.
  intro waiting
  induction waiting with
  | nil =>
    intro n p hstage hn
    have hstep : p.step s = ⟨p.request.finish .failed, p.ledger, s.elapse p.world⟩ := by
      simp only [step, Request.takeTurn, hstage]
    obtain ⟨hsteps, hhistory⟩ := steps_of_step_done s (p := p) (n := n)
        (by rw [hstep]; rfl) (by omega)
    rw [hsteps, hhistory, hstep]
    refine ⟨rfl, ?_⟩
    simp [nextStep, Request.happenings, hstage, ahead, Surroundings.passage]
  | cons i waiting ih =>
    intro n p hstage hn
    rw [List.length_cons] at hn
    cases hwanted : s.isCancelled p.world with
    | true =>
      have hstep : p.step s = ⟨p.request.finish .cancelled, p.ledger, s.elapse p.world⟩ := by
        simp [step, Request.takeTurn, hstage, hwanted]
      obtain ⟨hsteps, hhistory⟩ := steps_of_step_done s (p := p) (n := n)
        (by rw [hstep]; rfl) (by omega)
      rw [hsteps, hhistory, hstep]
      simp [nextStep, Request.happenings, hstage, hwanted, ahead, Surroundings.passage, undergo,
        Request.undergo, Request.conclude]
    | false =>
      obtain ⟨k, hk, hturn⟩ := exists_steps_eq_afterTurn s hstage hwanted
      obtain ⟨n, rfl⟩ : ∃ m, n = m + k := ⟨n - k, by omega⟩
      obtain ⟨hsteps, hhistory⟩ := hturn n
      rw [hsteps, hhistory]
      simp only [ahead, Surroundings.passage, hwanted, Bool.false_eq_true, if_false, afterTurn]
      generalize s.turn p.request.prompt ⟨p.ledger, p.world⟩ i = t,
        s.next p.request.prompt p.request.timeout ⟨p.ledger, p.world⟩ i = next
      cases t.verdict p.request.timeout with
      | answered text =>
        have hstage := Request.conclude_stage (p.request.take t) (.answered i text)
        obtain ⟨hend, hnothing⟩ := steps_of_done s
          (p := ⟨(p.request.take t).conclude (.answered i text), next.ledger, next.world⟩) hstage n
        simp only [hend, hnothing, List.append_nil, List.flatMap_cons, List.flatMap_nil]
        exact ⟨rfl, trivial⟩
      | abandoned =>
        have hstage := Request.conclude_stage (p.request.take t) (.abandoned i)
        obtain ⟨hend, hnothing⟩ := steps_of_done s
          (p := ⟨(p.request.take t).conclude (.abandoned i), next.ledger, next.world⟩) hstage n
        simp only [hend, hnothing, List.append_nil, List.flatMap_cons, List.flatMap_nil]
        exact ⟨rfl, trivial⟩
      | refused | failed error =>
        obtain ⟨hrest, hhappens⟩ := ih (n := n)
          (p := ⟨{ p.request.take t with stage := .turn waiting }, next.ledger, next.world⟩) rfl
          (by omega)
        -- Only the stage tells the request apart from the one with which the turns are told.
        rw [undergo, Request.undergo_stage] at hrest
        dsimp only
        rw [hrest, hhappens, List.flatMap_cons]
        simp only [ahead, Request.take_prompt, Request.take_timeout]
        exact ⟨rfl, trivial⟩

/-- A request from the turn of the next provider to its end. -/
theorem run_eq_passage (hstage : p.request.stage = .turn waiting) :
    p.run s = p.undergo (p.ahead s waiting) := by
  rw [run, hstage]
  exact (steps_eq_passage s hstage (Nat.le_refl _)).1

/-- What happens in a request from the turn of the next provider to its end. -/
theorem runHistory_eq_passage (hstage : p.request.stage = .turn waiting) :
    p.runHistory s = (p.ahead s waiting).turns.flatMap
      (·.happenings p.request.prompt p.request.timeout) := by
  rw [runHistory, hstage]
  exact (steps_eq_passage s hstage (Nat.le_refl _)).2

end Progress

/-! ### States -/

/-- The change of state that an event tells of. -/
def RequestEvent.transition? : RequestEvent → Option (RequestState × RequestState)
  | entered previous next => some (previous, next)
  | _ => none

/-- The changes from each state of a path to the one after it. -/
def links (path : List RequestState) : List (RequestState × RequestState) := path.zip path.tail

namespace Request

/-- The changes of state of a request in the order in which they came. -/
def transitions (r : Request π) : List (RequestState × RequestState) :=
  r.events.reverse.filterMap RequestEvent.transition?

theorem transitions_enter (r : Request π) (next : RequestState) :
    (r.enter next).transitions = r.transitions ++ [(r.state, next)] := by
  simp [transitions, enter, note, RequestEvent.transition?]

theorem transitions_note {r : Request π} {event : RequestEvent}
    (hevent : event.transition? = none) : (r.note event).transitions = r.transitions := by
  simp [transitions, note, hevent]

/-- The turn of a provider is one change of state. -/
theorem transitions_take (r : Request π) (t : Turn π) :
    (r.take t).transitions = r.transitions ++ [(r.state, .awaiting t.installation.slot)] := by
  simp only [take]
  split
  · rw [transitions_note rfl, transitions_enter]
  · rw [transitions_note rfl, transitions_enter]
  · exact transitions_enter r _
  · exact transitions_enter r _

@[simp] theorem take_state (r : Request π) (t : Turn π) :
    (r.take t).state = .awaiting t.installation.slot := by
  simp only [take]
  split <;> rfl

/-- The end of a request is one change of state. -/
theorem transitions_conclude (r : Request π) (ending : Ending π) :
    (r.conclude ending).transitions = r.transitions ++ [(r.state, .ofStatus ending.status)] := by
  cases ending with
  | answered i text => exact (transitions_note rfl).trans (transitions_enter r _)
  | abandoned i => exact (transitions_note rfl).trans (transitions_enter r _)
  | cancelled => exact transitions_enter r _
  | failed => exact transitions_enter r _

/-- A request goes from one awaiting to the next and from there to its end. -/
theorem transitions_undergo {turns : List (Turn π)} {ending : Ending π} : ∀ {r : Request π},
    (r.undergo turns ending).transitions = r.transitions ++
      links (r.state :: (turns.map fun t => .awaiting t.installation.slot) ++
        [.ofStatus ending.status]) := by
  induction turns with
  | nil => intro r; exact transitions_conclude r ending
  | cons t turns ih =>
    intro r
    have hrest : (r.undergo (t :: turns) ending).transitions =
        ((r.take t).undergo turns ending).transitions := rfl
    rw [hrest, ih, transitions_take, take_state, List.append_assoc]
    rfl

/-- The result of a request that has come to its end. -/
theorem result?_undergo {turns : List (Turn π)} {ending : Ending π} : ∀ {r : Request π},
    (r.undergo turns ending).result? = some (ending.result r.functionId) := by
  induction turns with
  | nil =>
    intro r
    rw [undergo, List.foldl_nil, result?, conclude_stage]
  | cons t turns ih =>
    intro r
    have hrest : (r.undergo (t :: turns) ending).result? =
        ((r.take t).undergo turns ending).result? := rfl
    rw [hrest, ih, take_functionId]

end Request

end EnergyAudit
