import EnergyAudit.Suggestion.Request
import EnergyAudit.Proofs.Ledger.Operation

/-!
# What happens in a request

A request asks the ledger for calls, puts its prompt to providers, and notes in the ledger how the
calls ended.  All this is told step by step, as the request sees it.  The ledger after a step is the
ledger before it with what happened, and its counts are how often everything happened.

## Main definitions

* `Happening` — what happens between a request, a provider and the ledger.
* `occurrences` — how often something of a kind happens with a provider.
* `CallCounts.plus` — counts to which happenings are added.
* `Happening.AgreesWith` — the ledger does with a call what is said to happen.
* `RequestStep`, `Request.perform` — a step of a request.
* `Request.happenings` — what happens in a step.
* `Request.Effect` — what a step may do.

## Main results

* `Request.effect_perform` — what every step does.
* `Request.perform_ledger` — the ledger after a step.
* `Request.counts_perform` — the counts after a step.
* `Progress.step_eq_perform` — what a step in some surroundings does.
-/

namespace EnergyAudit

variable {π : Type}

/-- What happens between a request, a provider and the ledger. -/
inductive Happening (π : Type) where
  /-- The ledger refused a call. -/
  | refused (i : Installation π) (now : Nat)
  /-- The ledger granted a call. -/
  | granted (i : Installation π) (now : Nat)
  /-- A prompt was put to the provider. -/
  | invoked (i : Installation π) (prompt : String)
  | succeeded (i : Installation π)
  | failed (i : Installation π)
  /-- The request was given up during the call. -/
  | abandoned (i : Installation π)

/-- The kinds of happenings. -/
inductive HappeningKind where
  | refused
  | granted
  | invoked
  | succeeded
  | failed
  | abandoned
deriving DecidableEq, Repr

namespace Happening

/-- The provider with which something happens. -/
def installation : Happening π → Installation π
  | refused i _ => i
  | granted i _ => i
  | invoked i _ => i
  | succeeded i => i
  | failed i => i
  | abandoned i => i

def kind : Happening π → HappeningKind
  | refused _ _ => .refused
  | granted _ _ => .granted
  | invoked _ _ => .invoked
  | succeeded _ => .succeeded
  | failed _ => .failed
  | abandoned _ => .abandoned

/-- What happens at the start of a call.  The provider is not even asked if the request is given up
as soon as the call starts. -/
def ofStart (i : Installation π) (prompt : String) (course : CallCourse) : List (Happening π) :=
  if course.isGivenUp 0 then [] else [invoked i prompt]

/-- What happens at the end of a call. -/
def ofOutcome (i : Installation π) : Option (Except ProviderError String) → Happening π
  | none => abandoned i
  | some (.ok _) => succeeded i
  | some (.error _) => failed i

theorem ofOutcome_ne_invoked (i j : Installation π)
    (outcome : Option (Except ProviderError String)) (prompt : String) :
    ofOutcome i outcome ≠ invoked j prompt := by
  intro h
  rcases outcome with _ | _ | _ <;> cases h

/-- The operation of the ledger that belongs to what happens. -/
def operation? : Happening π → Option LedgerOperation
  | refused i now => some (.acquire i.name now)
  | granted i now => some (.acquire i.name now)
  | invoked _ _ => none
  | succeeded i => some (.recordSuccess i.name)
  | failed i => some (.recordFailure i.name)
  | abandoned _ => none

end Happening

/-- The operations of the ledger that belong to what happens. -/
def operations (hs : List (Happening π)) : List LedgerOperation := hs.filterMap Happening.operation?

theorem operations_append (hs gs : List (Happening π)) :
    operations (hs ++ gs) = operations hs ++ operations gs :=
  List.filterMap_append

/-- How often something of a kind happens with a provider. -/
def occurrences (kind : HappeningKind) (provider : String) (hs : List (Happening π)) : Nat :=
  hs.countP fun h => h.kind = kind ∧ h.installation.name = provider

/-- Counts to which happenings are added. -/
def CallCounts.plus (c : CallCounts) (provider : String) (hs : List (Happening π)) :
    CallCounts where
  attempts := c.attempts + occurrences .granted provider hs
  successes := c.successes + occurrences .succeeded provider hs
  failures := c.failures + occurrences .failed provider hs
  throttled := c.throttled + occurrences .refused provider hs

@[simp] theorem occurrences_nil (kind : HappeningKind) (provider : String) :
    occurrences kind provider ([] : List (Happening π)) = 0 := rfl

theorem occurrences_cons (kind : HappeningKind) (provider : String) (h : Happening π)
    (hs : List (Happening π)) :
    occurrences kind provider (h :: hs) =
      (if h.kind = kind ∧ h.installation.name = provider then 1 else 0) +
        occurrences kind provider hs := by
  unfold occurrences
  rw [List.countP_cons, Nat.add_comm]
  simp

theorem occurrences_append (kind : HappeningKind) (provider : String) (hs gs : List (Happening π)) :
    occurrences kind provider (hs ++ gs) =
      occurrences kind provider hs + occurrences kind provider gs :=
  List.countP_append

@[simp] theorem CallCounts.plus_nil (c : CallCounts) (provider : String) :
    c.plus provider ([] : List (Happening π)) = c := rfl

theorem CallCounts.plus_append (c : CallCounts) (provider : String) (hs gs : List (Happening π)) :
    c.plus provider (hs ++ gs) = (c.plus provider hs).plus provider gs := by
  simp only [CallCounts.plus, occurrences_append, Nat.add_assoc]

/-- The start of a call is not counted. -/
theorem occurrences_ofStart {kind : HappeningKind} (hkind : kind ≠ .invoked) (provider : String)
    (i : Installation π) (prompt : String) (course : CallCourse) :
    occurrences kind provider (Happening.ofStart i prompt course) = 0 := by
  unfold Happening.ofStart
  split
  · rfl
  · rw [occurrences_cons, occurrences_nil, if_neg fun h => hkind h.1.symm]

theorem CallCounts.plus_ofStart (c : CallCounts) (provider : String) (i : Installation π)
    (prompt : String) (course : CallCourse) :
    c.plus provider (Happening.ofStart i prompt course) = c := by
  simp [CallCounts.plus, occurrences_ofStart]

/-! ### Counts -/

namespace Happening

/-- The ledger grants the call that is said to be granted, and refuses the one that is said to be
refused. -/
def AgreesWith (l : Ledger) : Happening π → Prop
  | refused i now => (l.acquire i.name now).1 = false
  | granted i now => (l.acquire i.name now).1 = true
  | _ => True

theorem after_ofStart (l : Ledger) (i : Installation π) (prompt : String) (course : CallCourse) :
    l.after (operations (ofStart i prompt course)) = l := by
  unfold ofStart
  split <;> rfl

theorem provider_of_operation? {h : Happening π} {op : LedgerOperation}
    (hop : h.operation? = some op) : op.provider = h.installation.name := by
  cases h <;> cases hop <;> rfl

/-- The counts after something has happened. -/
theorem counts_after {l : Ledger} {h : Happening π} (hl : h.AgreesWith l) (provider : String) :
    (l.after (operations [h])).counts provider = (l.counts provider).plus provider [h] := by
  by_cases hp : h.installation.name = provider
  · subst hp
    cases h with
    | invoked i prompt => rfl
    | abandoned i => rfl
    | succeeded i =>
      refine (congrArg Account.counts (Ledger.account_run_self l (.recordSuccess i.name))).trans ?_
      simp [CallCounts.plus, occurrences_cons, kind, installation, Ledger.counts,
        LedgerOperation.provider, LedgerOperation.onAccount, Account.succeeded]
    | failed i =>
      refine (congrArg Account.counts (Ledger.account_run_self l (.recordFailure i.name))).trans ?_
      simp [CallCounts.plus, occurrences_cons, kind, installation, Ledger.counts,
        LedgerOperation.provider, LedgerOperation.onAccount, Account.failed]
    | refused i now =>
      have hbudget : (l.account i.name).hasBudget now = false :=
        (l.acquire_fst i.name now).symm.trans hl
      refine (congrArg Account.counts (Ledger.account_run_self l (.acquire i.name now))).trans ?_
      simp [CallCounts.plus, occurrences_cons, kind, installation, Ledger.counts,
        LedgerOperation.provider, LedgerOperation.onAccount, hbudget, Account.refused]
    | granted i now =>
      have hbudget : (l.account i.name).hasBudget now = true :=
        (l.acquire_fst i.name now).symm.trans hl
      refine (congrArg Account.counts (Ledger.account_run_self l (.acquire i.name now))).trans ?_
      simp [CallCounts.plus, occurrences_cons, kind, installation, Ledger.counts,
        LedgerOperation.provider, LedgerOperation.onAccount, hbudget, Account.granted]
  · have hsame : (l.after (operations [h])).account provider = l.account provider := by
      refine Ledger.account_after_of_forall_ne fun op hop => ?_
      obtain ⟨g, hg, hgop⟩ := List.mem_filterMap.mp hop
      obtain rfl := List.mem_singleton.mp hg
      rw [provider_of_operation? hgop]
      exact hp
    rw [Ledger.counts, hsame]
    simp [CallCounts.plus, occurrences_cons, hp, Ledger.counts]

end Happening

/-- Nothing that happens changes a limit. -/
theorem limit_after_operations (l : Ledger) (hs : List (Happening π)) (provider : String) :
    ((l.after (operations hs)).account provider).limit = (l.account provider).limit := by
  have hnone : (operations hs).filterMap (LedgerOperation.limitFor? provider) = [] := by
    refine List.filterMap_eq_nil_iff.mpr fun op hop => ?_
    obtain ⟨h, -, hhop⟩ := List.mem_filterMap.mp hop
    cases h <;> cases hhop <;> rfl
  rw [Ledger.limit_after, hnone]
  rfl

/-! ### Steps -/

/-- What a request meets in one step. -/
inductive RequestStep where
  /-- The turn of the next provider comes at some time. -/
  | turn (isCancelled : Bool) (now : Nat)
  /-- A call takes its course. -/
  | call (course : CallCourse)

namespace Request

/-- The request and the ledger after a step. -/
def perform (r : Request π) : RequestStep → Ledger → Request π × Ledger
  | .turn isCancelled now, l => r.takeTurn isCancelled now l
  | .call course, l => r.endCall (course.ending r.timeout) l

/-- What happens in a step. -/
def happenings (r : Request π) : RequestStep → Ledger → List (Happening π)
  | .turn isCancelled now, l =>
    match r.stage with
    | .turn (i :: _) =>
      if isCancelled then []
      else if (l.acquire i.name now).1 then [.granted i now]
      else [.refused i now]
    | _ => []
  | .call course, _ =>
    match r.stage with
    | .calling i _ =>
      Happening.ofStart i r.prompt course ++
        [.ofOutcome i (course.ending r.timeout).outcome]
    | _ => []

/-- What a step does with a request and the ledger, with what happens in it. -/
inductive Effect (r : Request π) (l : Ledger) :
    RequestStep → Request π × Ledger → List (Happening π) → Prop
  /-- The stage of the request is not one for such a step. -/
  | none {step : RequestStep} : Effect r l step (r, l) []
  | exhausted {isCancelled : Bool} {now : Nat} (hstage : r.stage = .turn []) :
      Effect r l (.turn isCancelled now) (r.finish .failed, l) []
  | cancelled {now : Nat} {i : Installation π} {waiting : List (Installation π)}
      (hstage : r.stage = .turn (i :: waiting)) :
      Effect r l (.turn true now) (r.finish .cancelled, l) []
  | granted {now : Nat} {i : Installation π} {waiting : List (Installation π)}
      (hstage : r.stage = .turn (i :: waiting)) (hl : (l.acquire i.name now).1 = true) :
      Effect r l (.turn false now)
        ({ r.enter (.awaiting i.slot) with stage := .calling i waiting },
          (l.acquire i.name now).2)
        [.granted i now]
  | refused {now : Nat} {i : Installation π} {waiting : List (Installation π)}
      (hstage : r.stage = .turn (i :: waiting)) (hl : (l.acquire i.name now).1 = false) :
      Effect r l (.turn false now)
        ((r.enter (.awaiting i.slot)).passOn i .rateLimited waiting, (l.acquire i.name now).2)
        [.refused i now]
  | abandoned {course : CallCourse} {i : Installation π} {waiting : List (Installation π)}
      (hstage : r.stage = .calling i waiting)
      (hend : (course.ending r.timeout).outcome = .none) :
      Effect r l (.call course)
        ({ (r.enter .cancelled).note (.givenUp i.name) with
            stage := .done (.withoutAnswer r.functionId .cancelled) }, l)
        (Happening.ofStart i r.prompt course ++ [.abandoned i])
  | succeeded {course : CallCourse} {i : Installation π} {waiting : List (Installation π)}
      {text : String} (hstage : r.stage = .calling i waiting)
      (hend : (course.ending r.timeout).outcome = some (.ok text)) :
      Effect r l (.call course) (r.succeed i text, l.recordSuccess i.name)
        (Happening.ofStart i r.prompt course ++ [.succeeded i])
  | failed {course : CallCourse} {i : Installation π} {waiting : List (Installation π)}
      {error : ProviderError} (hstage : r.stage = .calling i waiting)
      (hend : (course.ending r.timeout).outcome = some (.error error)) :
      Effect r l (.call course) (r.passOn i error waiting, l.recordFailure i.name)
        (Happening.ofStart i r.prompt course ++ [.failed i])

/-- Every step has one of these effects. -/
theorem effect_perform (r : Request π) (step : RequestStep) (l : Ledger) :
    r.Effect l step (r.perform step l) (r.happenings step l) := by
  cases step with
  | turn isCancelled now =>
    simp only [perform, takeTurn, happenings]
    rcases hstage : r.stage with (_ | ⟨i, waiting⟩) | ⟨i, waiting⟩ | result
    · exact .exhausted hstage
    · cases isCancelled with
      | true => exact .cancelled hstage
      | false =>
        have hgranted := @Effect.granted _ r l now i waiting hstage
        have hrefused := @Effect.refused _ r l now i waiting hstage
        simp only [Bool.false_eq_true, if_false]
        rcases hl : l.acquire i.name now with ⟨isGranted, m⟩
        rw [hl] at hgranted hrefused
        cases isGranted with
        | true => exact hgranted rfl
        | false => exact hrefused rfl
    · exact .none
    · exact .none
  | call course =>
    simp only [perform, endCall, happenings]
    rcases hstage : r.stage with waiting | ⟨i, waiting⟩ | result
    · exact .none
    · rcases hend : (course.ending r.timeout).outcome with _ | error | text
      · exact .abandoned hstage hend
      · exact .failed hstage hend
      · exact .succeeded hstage hend
    · exact .none

/-- The ledger after a step is the ledger before it with what happened. -/
theorem perform_ledger (r : Request π) (step : RequestStep) (l : Ledger) :
    (r.perform step l).2 = l.after (operations (r.happenings step l)) := by
  have heffect := r.effect_perform step l
  generalize r.perform step l = next, r.happenings step l = hs at heffect ⊢
  cases heffect with
  | none | exhausted | cancelled | granted | refused => rfl
  | abandoned | succeeded | failed =>
    rw [operations_append, Ledger.after_append, Happening.after_ofStart]
    rfl

/-- The counts after a step are the counts before it with what happened. -/
theorem counts_perform (r : Request π) (step : RequestStep) (l : Ledger) (provider : String) :
    (r.perform step l).2.counts provider =
      (l.counts provider).plus provider (r.happenings step l) := by
  rw [perform_ledger]
  have heffect := r.effect_perform step l
  generalize r.perform step l = next, r.happenings step l = hs at heffect
  cases heffect with
  | none | exhausted | cancelled => rfl
  | granted _ hl | refused _ hl =>
    refine Happening.counts_after ?_ provider
    exact hl
  | abandoned | succeeded | failed =>
    rw [operations_append, Ledger.after_append, Happening.after_ofStart, CallCounts.plus_append,
      CallCounts.plus_ofStart]
    refine Happening.counts_after ?_ provider
    trivial

end Request

namespace Progress

variable {σ : Type}

/-- What the next step of a request meets. -/
def nextStep (s : Surroundings σ π) (p : Progress σ π) : RequestStep :=
  match p.request.stage with
  | .calling i _ => .call (s.call i p.request.prompt p.world).1
  | _ => .turn (s.isCancelled p.world) (s.now p.world)

/-- A step in some surroundings does with the request and the ledger what it meets there. -/
theorem step_eq_perform (s : Surroundings σ π) (p : Progress σ π) :
    ((p.step s).request, (p.step s).ledger) = p.request.perform (p.nextStep s) p.ledger := by
  rcases hstage : p.request.stage with waiting | ⟨i, waiting⟩ | result
  · simp only [step, nextStep, Request.perform, hstage]
  · simp only [step, nextStep, Request.perform, hstage]
  · simp only [step, nextStep, Request.perform, Request.takeTurn, hstage]

end Progress

end EnergyAudit
