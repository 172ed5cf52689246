import EnergyAudit.Proofs.Request.Fallback
import EnergyAudit.Proofs.Split
import EnergyAudit.Proofs.Suggestion.Installation

/-!
# The calls of one request

A request that nobody cancels calls the providers in the order of their slots, each at most once,
after the ledger has granted the call, with one and the same prompt, and no more once somebody has
answered.  What it does to the ledger is what these calls cost and nothing else: a provider that is
tried in vain is refused, or has an attempt and a failure; the one that answers has an attempt and a
success; the account of any other provider stays as it is.

## Main definitions

* `invocations` — the calls that were made.
* `CallsGranted`, `NothingAfterAnswer`, `CallDiscipline` — how calls are made.
* `Turn.missed`, `Turn.won` — what happens in a turn in vain and in one with an answer.
* `LedgerEffect` — what a request does to the ledger.
* `Surroundings.recording` — surroundings that keep a list of the calls that come;
  `Progress.calls` — the calls that come in some steps.

## Main results

* `Surroundings.callsGranted_passage` — every call was granted just before.
* `Progress.run_recording` — the calls that come are those that happen.
* `Orchestrator.disciplined_request` — how a request calls, and what it does to the ledger.
-/

namespace EnergyAudit

variable {σ π : Type}

/-! ### Calls -/

/-- The call that was made, with the prompt. -/
def Happening.invocation? : Happening π → Option (Installation π × String)
  | invoked i prompt => some (i, prompt)
  | _ => none

/-- The calls that were made, in the order in which they were made. -/
def invocations (hs : List (Happening π)) : List (Installation π × String) :=
  hs.filterMap Happening.invocation?

/-- Whenever a provider is called, the ledger has just granted the call. -/
def CallsGranted (l : Ledger) (hs : List (Happening π)) : Prop :=
  ∀ before i prompt rest, hs = before ++ .invoked i prompt :: rest →
    ∃ former now, before = former ++ [.granted i now] ∧
      ((l.after (operations former)).acquire i.name now).1 = true

/-- Nothing happens any more when a provider has answered. -/
def NothingAfterAnswer (hs : List (Happening π)) : Prop :=
  ∀ before i rest, hs = before ++ .succeeded i :: rest → rest = []

/-- How a request calls its providers. -/
structure CallDiscipline (is : List (Installation π)) (prompt : String) (l : Ledger)
    (hs : List (Happening π)) : Prop where
  /-- No slot is called twice. -/
  nodup : ((invocations hs).map (·.1.slot)).Nodup
  /-- The calls come in the order of the slots. -/
  inOrder : ((invocations hs).map (·.1)).Sublist is
  /-- All calls come with the prompt. -/
  samePrompt : ∀ call ∈ invocations hs, call.2 = prompt
  callsGranted : CallsGranted l hs
  nothingAfterAnswer : NothingAfterAnswer hs

theorem eq_of_singleton_eq_append_cons {α : Type} {before rest : List α} {x y : α}
    (h : [x] = before ++ y :: rest) : before = [] ∧ x = y ∧ rest = [] := by
  cases before with
  | nil =>
    obtain ⟨hxy, hrest⟩ := List.cons.inj h
    exact ⟨rfl, hxy, hrest.symm⟩
  | cons z before =>
    obtain ⟨-, hnil⟩ := List.cons.inj h
    simp at hnil

theorem CallsGranted.append {l : Ledger} {hs gs : List (Happening π)} (h : CallsGranted l hs)
    (g : CallsGranted (l.after (operations hs)) gs) : CallsGranted l (hs ++ gs) := by
  intro before i prompt rest hsplit
  rcases append_eq_append_cons hsplit with ⟨others, hhs, -⟩ | ⟨others, hbefore, hgs⟩
  · exact h before i prompt others hhs
  · obtain ⟨former, now, hothers, hgranted⟩ := g others i prompt rest hgs
    refine ⟨hs ++ former, now, ?_, ?_⟩
    · rw [hbefore, hothers, List.append_assoc]
    · rw [operations_append, Ledger.after_append]
      exact hgranted

theorem NothingAfterAnswer.append {hs gs : List (Happening π)}
    (h : ∀ i, Happening.succeeded i ∉ hs) (g : NothingAfterAnswer gs) :
    NothingAfterAnswer (hs ++ gs) := by
  intro before i rest hsplit
  rcases append_eq_append_cons hsplit with ⟨others, hhs, -⟩ | ⟨others, -, hgs⟩
  · refine absurd ?_ (h i)
    rw [hhs]
    exact List.mem_append_right _ List.mem_cons_self
  · exact g others i rest hgs

/-! ### Turns -/

namespace Surroundings

variable (s : Surroundings σ π) (prompt : String) (timeout : Nat)

/-- A call in a turn was granted just before. -/
theorem callsGranted_turn (c : Situation σ) (i : Installation π) :
    CallsGranted c.ledger ((s.turn prompt c i).happenings prompt timeout) := by
  intro before j text rest hsplit
  unfold turn Turn.happenings at hsplit
  cases hl : (c.ledger.acquire i.name (s.now c.world)).1 with
  | false =>
    simp [hl, List.cons_eq_append_iff] at hsplit
  | true =>
    rw [hl, if_pos rfl] at hsplit
    cases before with
    | nil => cases (List.cons.inj hsplit).1
    | cons first before =>
      obtain ⟨rfl, htail⟩ := List.cons.inj hsplit
      -- After the grant there is at most one call; the end of the turn is none.
      rcases append_eq_append_cons htail with ⟨others, hstart, -⟩ | ⟨others, -, hend⟩
      · unfold Happening.ofStart at hstart
        split at hstart
        · simp at hstart
        · obtain ⟨rfl, hinvoked, -⟩ := eq_of_singleton_eq_append_cons hstart
          cases hinvoked
          exact ⟨[], _, rfl, hl⟩
      · obtain ⟨-, hinvoked, -⟩ := eq_of_singleton_eq_append_cons hend
        exact absurd hinvoked (Happening.ofOutcome_ne_invoked _ _ _ _)

/-- Every call in some turns was granted just before. -/
theorem callsGranted_passage {waiting : List (Installation π)} : ∀ {c : Situation σ},
    CallsGranted c.ledger
      ((s.passage prompt timeout c waiting).turns.flatMap (·.happenings prompt timeout)) := by
  induction waiting with
  | nil =>
    intro c before i text rest hsplit
    simp [passage] at hsplit
  | cons i waiting ih =>
    intro c
    have hturn := s.callsGranted_turn prompt timeout c i
    unfold passage
    cases s.isCancelled c.world with
    | true =>
      intro before j text rest hsplit
      simp at hsplit
    | false =>
      simp only [Bool.false_eq_true, if_false]
      split
      · simpa using hturn
      · simpa using hturn
      · rw [List.flatMap_cons]
        exact hturn.append ih
      · rw [List.flatMap_cons]
        exact hturn.append ih

end Surroundings

namespace Turn

/-- Whether the provider was called. -/
def isCalled (t : Turn π) : Bool := t.call?.isSome

/-- What happens in a turn in vain. -/
def missed (prompt : String) (t : Turn π) : List (Happening π) :=
  if t.isCalled then
    [.granted t.installation t.now, .invoked t.installation prompt, .failed t.installation]
  else [.refused t.installation t.now]

/-- What happens in a turn with an answer. -/
def won (prompt : String) (t : Turn π) : List (Happening π) :=
  [.granted t.installation t.now, .invoked t.installation prompt, .succeeded t.installation]

end Turn

namespace Surroundings

variable {s : Surroundings σ π} {prompt : String} {timeout : Nat}

/-- What happens in a turn if nobody cancels. -/
theorem NeverCancels.happenings_turn (hs : s.NeverCancels) (c : Situation σ) (i : Installation π) :
    (s.turn prompt c i).happenings prompt timeout =
      match (s.turn prompt c i).verdict timeout with
      | .answered _ => (s.turn prompt c i).won prompt
      | _ => (s.turn prompt c i).missed prompt := by
  unfold Turn.happenings Turn.verdict
  cases hl : (c.ledger.acquire i.name (s.now c.world)).1 with
  | false => simp [turn, hl, Turn.missed, Turn.isCalled]
  | true =>
    -- A call that nobody gives up is made; it ends with a reply or with the timeout.
    have hgivenUp := hs.givenUp? i prompt (s.elapse c.world)
    have hcall : (s.turn prompt c i).call? = some (s.call i prompt (s.elapse c.world)).1 := by
      simp [turn, hl]
    have hcalled : (s.turn prompt c i).isCalled = true := by
      rw [Turn.isCalled, hcall]
      rfl
    simp only [hcall, Happening.ofStart, CallCourse.ending, CallCourse.isGivenUp, hgivenUp,
      Turn.missed, Turn.won, hcalled]
    rcases ((s.call i prompt (s.elapse c.world)).1.reply timeout) with error | text
    · rfl
    · simp only [CallEnd.ofReply, CallEnd.outcome]
      cases hblank : Text.isAllBlank text <;>
        simp [hblank, Verdict.ofOutcome, Happening.ofOutcome]

theorem NeverCancels.happenings_of_answers (hs : s.NeverCancels) {c : Situation σ}
    {i : Installation π} {text : String} (h : s.Answers prompt timeout c i text) :
    (s.turn prompt c i).happenings prompt timeout = (s.turn prompt c i).won prompt := by
  rw [hs.happenings_turn, (verdict_eq_answered_iff hs).mpr h]

theorem NeverCancels.happenings_of_not_answers (hs : s.NeverCancels) {c : Situation σ}
    {i : Installation π} (h : ∀ text, ¬ s.Answers prompt timeout c i text) :
    (s.turn prompt c i).happenings prompt timeout = (s.turn prompt c i).missed prompt := by
  rw [hs.happenings_turn]
  split
  · next text hverdict => exact absurd ((verdict_eq_answered_iff hs).mp hverdict) (h text)
  · rfl

/-- All that happens in turns in vain. -/
theorem NeverCancels.happenings_of_nobodyAnswers (hs : s.NeverCancels)
    {is : List (Installation π)} : ∀ {c : Situation σ}, s.NobodyAnswers prompt timeout c is →
      (s.turns prompt timeout c is).flatMap (·.happenings prompt timeout) =
        (s.turns prompt timeout c is).flatMap (·.missed prompt) := by
  induction is with
  | nil => intro c _; rfl
  | cons i is ih =>
    intro c h
    obtain ⟨hfirst, hothers⟩ := nobodyAnswers_cons.mp h
    rw [turns, List.flatMap_cons, List.flatMap_cons, hs.happenings_of_not_answers hfirst,
      ih hothers]

end Surroundings

/-! ### What the calls cost -/

/-- How many of some turns were calls to a provider. -/
def callsTo (provider : String) (turns : List (Turn π)) : Nat :=
  turns.countP fun t => t.isCalled && t.installation.name = provider

/-- How many calls to a provider were refused in some turns. -/
def refusalsOf (provider : String) (turns : List (Turn π)) : Nat :=
  turns.countP fun t => !t.isCalled && t.installation.name = provider

/-- What a request does to the ledger with some turns in vain and one with an answer, if there is
one. -/
structure LedgerEffect (before after : Ledger) (missed : List (Turn π)) (won? : Option (Turn π)) :
    Prop where
  /-- A turn in vain costs a refusal, or an attempt and a failure; the one with an answer costs an
  attempt and a success. -/
  counts : ∀ provider, after.counts provider =
    { attempts := (before.counts provider).attempts + callsTo provider missed +
        callsTo provider won?.toList
      successes := (before.counts provider).successes + callsTo provider won?.toList
      failures := (before.counts provider).failures + callsTo provider missed
      throttled := (before.counts provider).throttled + refusalsOf provider missed }
  /-- The account of a provider that had no turn stays. -/
  account : ∀ provider, (∀ t ∈ missed ++ won?.toList, t.installation.name ≠ provider) →
    after.account provider = before.account provider
  limit : ∀ provider, (after.account provider).limit = (before.account provider).limit

theorem plus_missed (prompt provider : String) {missed : List (Turn π)} : ∀ {c : CallCounts},
    c.plus provider (missed.flatMap (·.missed prompt)) =
      { attempts := c.attempts + callsTo provider missed
        successes := c.successes
        failures := c.failures + callsTo provider missed
        throttled := c.throttled + refusalsOf provider missed } := by
  induction missed with
  | nil => intro c; rfl
  | cons t missed ih =>
    intro c
    rw [List.flatMap_cons, CallCounts.plus_append, ih]
    simp only [callsTo, refusalsOf, List.countP_cons, Turn.missed]
    by_cases hname : t.installation.name = provider <;> cases hcalled : t.isCalled <;>
      simp [CallCounts.plus, occurrences_cons, Happening.kind, Happening.installation, hname] <;>
      omega

theorem plus_won (prompt provider : String) {won? : Option (Turn π)}
    (hcalled : ∀ t ∈ won?, t.isCalled = true) (c : CallCounts) :
    c.plus provider (won?.toList.flatMap (·.won prompt)) =
      { c with
        attempts := c.attempts + callsTo provider won?.toList
        successes := c.successes + callsTo provider won?.toList } := by
  cases won? with
  | none => rfl
  | some t =>
    have ht : t.isCalled = true := hcalled t rfl
    by_cases hname : t.installation.name = provider <;>
      simp [callsTo, Turn.won, CallCounts.plus, occurrences_cons, Happening.kind,
        Happening.installation, ht, hname]

/-! ### The calls of a request -/

theorem invocations_append (hs gs : List (Happening π)) :
    invocations (hs ++ gs) = invocations hs ++ invocations gs :=
  List.filterMap_append

theorem invocations_missed (prompt : String) (missed : List (Turn π)) :
    invocations (missed.flatMap (·.missed prompt)) =
      (missed.filter (·.isCalled)).map fun t => (t.installation, prompt) := by
  induction missed with
  | nil => rfl
  | cons t missed ih =>
    rw [List.flatMap_cons, invocations_append, ih]
    cases hcalled : t.isCalled <;>
      simp [Turn.missed, hcalled, invocations, Happening.invocation?, List.filterMap_cons]

/-- The calls that were made are those of the turns in which the ledger granted one. -/
theorem invocations_eq (prompt : String) (missed : List (Turn π)) {won? : Option (Turn π)}
    (hcalled : ∀ t ∈ won?, t.isCalled = true) :
    invocations (missed.flatMap (·.missed prompt) ++ won?.toList.flatMap (·.won prompt)) =
      ((missed ++ won?.toList).filter (·.isCalled)).map fun t => (t.installation, prompt) := by
  rw [invocations_append, invocations_missed, List.filter_append, List.map_append]
  congr 1
  cases won? with
  | none => rfl
  | some t =>
    simp [Turn.won, invocations, Happening.invocation?, List.filterMap_cons, hcalled t rfl]

theorem nothingAfterAnswer_missed_won (prompt : String) (missed : List (Turn π))
    (won? : Option (Turn π)) :
    NothingAfterAnswer
      (missed.flatMap (·.missed prompt) ++ won?.toList.flatMap (·.won prompt)) := by
  refine NothingAfterAnswer.append ?_ ?_
  · intro i hmem
    obtain ⟨t, -, ht⟩ := List.mem_flatMap.mp hmem
    cases hcalled : t.isCalled <;> simp [Turn.missed, hcalled] at ht
  · cases won? with
    | none =>
      intro before i rest hsplit
      simp at hsplit
    | some t =>
      -- The answer comes last in the turn.
      show NothingAfterAnswer
        ([.granted t.installation t.now, .invoked t.installation prompt] ++
          [.succeeded t.installation])
      refine NothingAfterAnswer.append ?_ ?_
      · simp
      · intro before i rest hsplit
        exact (eq_of_singleton_eq_append_cons hsplit).2.2

/-- The calls of turns that providers had in the order of their slots. -/
theorem callDiscipline_of_turns {is : List (Installation π)} {prompt : String} {l : Ledger}
    {hs : List (Happening π)} {missed : List (Turn π)} {won? : Option (Turn π)}
    (hslots : (is.map (·.slot)).Nodup)
    (hfirst : (missed ++ won?.toList).map (·.installation) <+: is)
    (hcalled : ∀ t ∈ won?, t.isCalled = true)
    (hhappened : hs = missed.flatMap (·.missed prompt) ++ won?.toList.flatMap (·.won prompt))
    (hgranted : CallsGranted l hs) : CallDiscipline is prompt l hs := by
  have hcalls := invocations_eq prompt missed hcalled
  rw [← hhappened] at hcalls
  have hinOrder : ((invocations hs).map (·.1)).Sublist is := by
    rw [hcalls, List.map_map]
    exact (List.filter_sublist.map _).trans hfirst.sublist
  refine ⟨?_, hinOrder, ?_, hgranted, ?_⟩
  · have hnodup := hslots.sublist (hinOrder.map (·.slot))
    rwa [List.map_map] at hnodup
  · intro call hcall
    rw [hcalls] at hcall
    obtain ⟨t, -, rfl⟩ := List.mem_map.mp hcall
    rfl
  · rw [hhappened]
    exact nothingAfterAnswer_missed_won prompt missed won?

/-- Whatever happens, happens in the turn of a provider. -/
theorem exists_turn_of_mem {prompt : String} {missed : List (Turn π)} {won? : Option (Turn π)}
    {h : Happening π}
    (hh : h ∈ missed.flatMap (·.missed prompt) ++ won?.toList.flatMap (·.won prompt)) :
    ∃ t ∈ missed ++ won?.toList, h.installation = t.installation := by
  rcases List.mem_append.mp hh with hh | hh
  · obtain ⟨t, ht, htmem⟩ := List.mem_flatMap.mp hh
    refine ⟨t, List.mem_append_left _ ht, ?_⟩
    unfold Turn.missed at htmem
    split at htmem
    · simp only [List.mem_cons, List.not_mem_nil, or_false] at htmem
      rcases htmem with rfl | rfl | rfl <;> rfl
    · rw [List.mem_singleton.mp htmem]
      rfl
  · obtain ⟨t, ht, htmem⟩ := List.mem_flatMap.mp hh
    refine ⟨t, List.mem_append_right _ ht, ?_⟩
    simp only [Turn.won, List.mem_cons, List.not_mem_nil, or_false] at htmem
    rcases htmem with rfl | rfl | rfl <;> rfl

/-- What a request does to the ledger with turns in which all this happened. -/
theorem ledgerEffect_of_turns {s : Surroundings σ π} {p : Progress σ π} {prompt : String}
    {missed : List (Turn π)} {won? : Option (Turn π)} (hcalled : ∀ t ∈ won?, t.isCalled = true)
    (hhappened : p.runHistory s =
      missed.flatMap (·.missed prompt) ++ won?.toList.flatMap (·.won prompt)) :
    LedgerEffect p.ledger (p.run s).ledger missed won? := by
  have hledger : (p.run s).ledger = p.ledger.after (operations (p.runHistory s)) :=
    Progress.ledger_steps s
  refine ⟨?_, ?_, ?_⟩
  · intro provider
    have hcounts : (p.run s).ledger.counts provider =
        (p.ledger.counts provider).plus provider (p.runHistory s) :=
      Progress.counts_steps s provider
    rw [hcounts, hhappened, CallCounts.plus_append, plus_missed, plus_won prompt provider hcalled]
  · -- No operation on the ledger concerns a provider without a turn.
    intro provider hothers
    rw [hledger]
    refine Ledger.account_after_of_forall_ne fun op hop => ?_
    obtain ⟨h, hh, hhop⟩ := List.mem_filterMap.mp hop
    rw [hhappened] at hh
    obtain ⟨t, ht, hinstallation⟩ := exists_turn_of_mem hh
    rw [Happening.provider_of_operation? hhop, hinstallation]
    exact hothers t ht
  · intro provider
    rw [hledger, limit_after_operations]

/-- The turns of providers if nobody cancels: some in vain, then one with an answer if somebody
answers, and all of them without one if nobody does. -/
theorem Surroundings.NeverCancels.exists_turns {s : Surroundings σ π} (hs : s.NeverCancels)
    (prompt : String) (timeout : Nat) (c : Situation σ) (is : List (Installation π)) :
    ∃ (missed : List (Turn π)) (won? : Option (Turn π)),
      (missed ++ won?.toList).map (·.installation) <+: is ∧
        (won? = none → missed.map (·.installation) = is) ∧
        (∀ t ∈ won?, t.isCalled = true) ∧
        (s.passage prompt timeout c is).turns.flatMap (·.happenings prompt timeout) =
          missed.flatMap (·.missed prompt) ++ won?.toList.flatMap (·.won prompt) ∧
        ∀ functionId, ((s.passage prompt timeout c is).ending.result functionId).slot? =
          won?.map (·.installation.slot) := by
  rcases s.nobodyAnswers_or_exists_first prompt timeout is c with
    hnobody | ⟨before, i, rest, text, hsplit, hbefore, h⟩
  · obtain ⟨hturns, hending⟩ := Surroundings.passage_of_nobodyAnswers hs hnobody
    refine ⟨s.turns prompt timeout c is, none, ?_, ?_, ?_, ?_, ?_⟩
    · refine ⟨[], ?_⟩
      rw [Option.toList_none, List.append_nil, List.append_nil, Surroundings.installation_turns]
    · intro _
      exact Surroundings.installation_turns
    · intro t ht
      cases ht
    · rw [hturns, hs.happenings_of_nobodyAnswers hnobody]
      simp
    · intro functionId
      rw [hending]
      rfl
  · obtain ⟨hturns, hending⟩ := Surroundings.passage_of_answers hs hbefore h rest
    refine ⟨s.turns prompt timeout c before,
      some (s.turn prompt (s.after prompt timeout c before) i), ?_, ?_, ?_, ?_, ?_⟩
    · rw [Option.toList_some, List.map_append, Surroundings.installation_turns, hsplit]
      exact ⟨rest, by simp [Surroundings.turn]⟩
    · intro hnone
      cases hnone
    · rintro t ⟨⟩
      simp [Turn.isCalled, Surroundings.turn, h.1]
    · rw [hsplit, hturns, List.flatMap_append, hs.happenings_of_nobodyAnswers hbefore]
      simp [hs.happenings_of_answers h]
    · intro functionId
      rw [hsplit, hending]
      rfl

/-! ### The calls that the surroundings see -/

/-- Surroundings that keep a list of the calls that come, with their prompts. -/
def Surroundings.recording (s : Surroundings σ π) :
    Surroundings (σ × List (Installation π × String)) π where
  now w := s.now w.1
  isCancelled w := s.isCancelled w.1
  elapse w := (s.elapse w.1, w.2)
  call i prompt w :=
    ((s.call i prompt w.1).1, ((s.call i prompt w.1).2, w.2 ++ [(i, prompt)]))

namespace Progress

/-- A request in surroundings in which some calls have come. -/
def recorded (p : Progress σ π) (calls : List (Installation π × String)) :
    Progress (σ × List (Installation π × String)) π :=
  ⟨p.request, p.ledger, (p.world, calls)⟩

/-- The call that comes in the next step, if one does. -/
def nextCalls (p : Progress σ π) : List (Installation π × String) :=
  match p.request.stage with
  | .calling i _ => [(i, p.request.prompt)]
  | _ => []

/-- Nothing but the call that comes in a step is added to the list. -/
theorem step_recording (s : Surroundings σ π) (p : Progress σ π)
    (calls : List (Installation π × String)) :
    (p.recorded calls).step s.recording = (p.step s).recorded (calls ++ p.nextCalls) := by
  cases hstage : p.request.stage <;>
    simp [step, recorded, nextCalls, Surroundings.recording, hstage]

/-- The calls that come in a step are those that happen. -/
theorem nextCalls_eq_invocations {s : Surroundings σ π} (hs : s.NeverCancels)
    (p : Progress σ π) :
    p.nextCalls = invocations (p.request.happenings (p.nextStep s) p.ledger) := by
  rcases hstage : p.request.stage with (_ | ⟨i, waiting⟩) | ⟨i, waiting⟩ | result
  · simp [nextCalls, nextStep, Request.happenings, hstage, invocations]
  · simp only [nextCalls, nextStep, Request.happenings, hstage]
    split
    · rfl
    · split <;> rfl
  · simp only [nextCalls, nextStep, Request.happenings, hstage, Happening.ofStart,
      CallCourse.isGivenUp, hs.givenUp? i p.request.prompt p.world]
    rcases ((s.call i p.request.prompt p.world).1.ending p.request.timeout).outcome with
      _ | _ | _ <;> rfl
  · simp [nextCalls, nextStep, Request.happenings, hstage, invocations]

/-- The calls that come in so many steps of a request. -/
def calls (s : Surroundings σ π) : Nat → Progress σ π → List (Installation π × String)
  | 0, _ => []
  | n + 1, p => p.nextCalls ++ calls s n (p.step s)

theorem steps_recorded (s : Surroundings σ π) {n : Nat} :
    ∀ {p : Progress σ π} {before : List (Installation π × String)},
      (p.recorded before).steps s.recording n = (p.steps s n).recorded (before ++ p.calls s n) := by
  induction n with
  | zero => intro p before; rw [calls, List.append_nil]; rfl
  | succ n ih =>
    intro p before
    rw [steps, steps, calls, step_recording, ih, List.append_assoc]

/-- All calls that come in a request are those of its steps, also if it is cancelled. -/
theorem run_recorded (s : Surroundings σ π) (p : Progress σ π) :
    (p.recorded []).run s.recording =
      (p.run s).recorded (p.calls s p.request.stage.stepsLeft) :=
  steps_recorded s

theorem calls_eq_invocations {s : Surroundings σ π} (hs : s.NeverCancels) {n : Nat} :
    ∀ {p : Progress σ π}, p.calls s n = invocations (p.history s n) := by
  induction n with
  | zero => intro p; rfl
  | succ n ih =>
    intro p
    rw [calls, history, invocations_append, nextCalls_eq_invocations hs, ih]

/-- The calls that come in the course of a request are those that happen. -/
theorem run_recording {s : Surroundings σ π} (hs : s.NeverCancels) (p : Progress σ π) :
    (p.recorded []).run s.recording = (p.run s).recorded (invocations (p.runHistory s)) := by
  rw [run_recorded, calls_eq_invocations hs]
  rfl

end Progress

/-- **How a request that nobody cancels calls its providers, and what it does to the ledger**, for
providers that have been put in their slots in any order.  It tries the first of them in vain up to
one that answers, or all of them if nobody does; just these turns show in the ledger, and just their
calls come to the providers. -/
theorem Orchestrator.disciplined_request {s : Surroundings σ π} (hs : s.NeverCancels)
    (timeout : Nat) (is : List (Installation π)) (record : FunctionRecord) (score : HotspotScore)
    (ledger : Ledger) (world : σ) :
    let o := ofInstallations timeout is
    let text := prompt record score promptLanguage
    let p : Progress σ π := ⟨o.request record score, ledger, world⟩
    CallDiscipline o.installations text ledger (p.runHistory s) ∧
      ((p.recorded []).run s.recording).world.2 = invocations (p.runHistory s) ∧
      (p.run s).ledger = ledger.after (operations (p.runHistory s)) ∧
      ∃ (missed : List (Turn π)) (won? : Option (Turn π)),
        (missed ++ won?.toList).map (·.installation) <+: o.installations ∧
        (won? = none → missed.map (·.installation) = o.installations) ∧
        (∀ t ∈ won?, t.isCalled = true) ∧
        p.runHistory s = missed.flatMap (·.missed text) ++ won?.toList.flatMap (·.won text) ∧
        ((p.run s).request.result?.bind (·.slot?)) = won?.map (·.installation.slot) ∧
        LedgerEffect ledger (p.run s).ledger missed won? := by
  intro o text p
  have hhistory : p.runHistory s = (s.passage text o.timeout ⟨ledger, world⟩
      o.installations).turns.flatMap (·.happenings text o.timeout) :=
    Progress.runHistory_eq_passage s rfl
  obtain ⟨missed, won?, hfirst, hall, hcalled, hturns, hslot⟩ :=
    hs.exists_turns text o.timeout ⟨ledger, world⟩ o.installations
  have hgranted : CallsGranted ledger (p.runHistory s) := by
    rw [hhistory]
    exact s.callsGranted_passage text o.timeout
  have hhappened := hhistory.trans hturns
  have hresult : (p.run s).request.result?.bind (·.slot?) = won?.map (·.installation.slot) := by
    rw [o.run_request record score s ledger world, Progress.undergo, Request.result?_undergo]
    exact hslot record.id
  exact ⟨callDiscipline_of_turns (nodup_slots timeout is) hfirst hcalled hhappened hgranted,
    congrArg (·.world.2) (Progress.run_recording hs p), Progress.ledger_steps s, missed, won?,
    hfirst, hall, hcalled, hhappened, hresult,
    ledgerEffect_of_turns hcalled hhappened⟩

/-- Two providers of one name, of which the first has nothing to say. -/
def Installation.sharedName : List (Installation String) :=
  [⟨.primary, "shared", " "⟩, ⟨.secondary, "shared", "Cache it."⟩]

/-- A request to providers of one name calls them as it should, and leaves other names alone. -/
theorem Orchestrator.disciplined_request_sharedName :
    let o := ofInstallations 1000 Installation.sharedName
    let p : Progress Unit String := ⟨o.request default default, .empty, ()⟩
    Surroundings.reciting.NeverCancels ∧
      CallDiscipline o.installations (prompt default default promptLanguage) .empty
        (p.runHistory Surroundings.reciting) ∧
      (p.run Surroundings.reciting).ledger.account "other" = {} := by
  intro o p
  have hs : Surroundings.reciting.NeverCancels := ⟨fun _ => rfl, fun _ _ _ => rfl⟩
  obtain ⟨hcalls, -, -, missed, won?, htried, -, -, -, -, heffect⟩ :=
    disciplined_request hs 1000 Installation.sharedName default default .empty ()
  refine ⟨hs, hcalls, ?_⟩
  rw [heffect.account "other", Ledger.account_empty]
  intro t ht
  have hmem : t.installation ∈ Installation.sharedName :=
    htried.subset (List.mem_map_of_mem ht)
  simp only [Installation.sharedName, List.mem_cons, List.not_mem_nil, or_false] at hmem
  rcases hmem with hfirst | hsecond
  · rw [hfirst]
    decide
  · rw [hsecond]
    decide

end EnergyAudit
