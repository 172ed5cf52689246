import EnergyAudit.Proofs.Request.Passage
import EnergyAudit.Suggestion.Orchestrator

/-!
# Who answers a request

A request that nobody cancels ends with the answer of the first provider, in the order of the slots,
that the ledger grants a call and that says something in time which is not blank.  A provider is
judged in the situation that the turns of those before it have left.  If there is no such provider
the request has failed.

## Main definitions

* `Surroundings.NeverCancels` — the request is wanted all the time.
* `Surroundings.Answers` — a provider answers in some situation.
* `Surroundings.after` — the situation after the turns of some providers.
* `Surroundings.NobodyAnswers` — none of some providers answers when its turn comes.
* `statePath` — the states that a request comes through.

## Main results

* `Surroundings.verdict_eq_answered_iff` — when the turn of a provider ends with an answer.
* `Surroundings.passage_of_answers`, `Surroundings.passage_of_nobodyAnswers` — how providers take
  their turns.
* `Orchestrator.first_answer_or_failed` — what comes of a request.
-/

namespace EnergyAudit

open EnergyAudit.Text

variable {σ π : Type}

/-! ### What a call comes to -/

/-- A provider said something in time if it came with the timeout at the latest. -/
theorem CallCourse.reply_eq_ok_iff {course : CallCourse} {timeout : Nat} {text : String} :
    course.reply timeout = .ok text ↔
      ∃ delay ≤ timeout, course.reply? = some (delay, .ok text) := by
  unfold reply
  constructor
  · intro h
    split at h
    · next delay reply hreply =>
      split at h
      · next hdelay => exact ⟨delay, hdelay, h ▸ hreply⟩
      · cases h
    · cases h
  · rintro ⟨delay, hdelay, hreply⟩
    simp only [hreply, hdelay, if_true]

namespace Verdict

/-- What a call comes to in which the provider said something or the time was up. -/
def ofReply (reply : Except ProviderError String) : Verdict :=
  ofOutcome (CallEnd.ofReply reply).outcome

theorem ofReply_eq_answered_iff {reply : Except ProviderError String} {text : String} :
    ofReply reply = .answered text ↔ reply = .ok text ∧ isAllBlank text = false := by
  cases reply with
  | error error => simp [ofReply, CallEnd.ofReply, CallEnd.outcome, ofOutcome]
  | ok said =>
    cases hblank : isAllBlank said with
    | true =>
      simp only [ofReply, CallEnd.ofReply, CallEnd.outcome, ofOutcome, hblank, if_true]
      constructor
      · intro h
        cases h
      · rintro ⟨h, hnot⟩
        rw [Except.ok.inj h, hnot] at hblank
        cases hblank
    | false =>
      simp only [ofReply, CallEnd.ofReply, CallEnd.outcome, ofOutcome, hblank, Bool.false_eq_true,
        if_false, answered.injEq, Except.ok.injEq]
      constructor
      · intro h
        exact ⟨h, h ▸ hblank⟩
      · exact And.left

theorem ofReply_ne_abandoned (reply : Except ProviderError String) :
    ofReply reply ≠ .abandoned := by
  unfold ofReply
  cases reply with
  | error error => exact Verdict.noConfusion
  | ok said =>
    simp only [CallEnd.ofReply, CallEnd.outcome]
    split <;> exact Verdict.noConfusion

end Verdict

namespace Surroundings

/-- The request is wanted all the time. -/
structure NeverCancels (s : Surroundings σ π) : Prop where
  isCancelled : ∀ world, s.isCancelled world = false
  givenUp? : ∀ i prompt world, (s.call i prompt world).1.givenUp? = none

variable (s : Surroundings σ π) (prompt : String) (timeout : Nat)

/-- A provider is granted a call in some situation, and says in time what is not blank. -/
def Answers (c : Situation σ) (i : Installation π) (text : String) : Prop :=
  (c.ledger.acquire i.name (s.now c.world)).1 = true ∧
    (∃ delay ≤ timeout, (s.call i prompt (s.elapse c.world)).1.reply? = some (delay, .ok text)) ∧
    isAllBlank text = false

/-- The situation after the turns of some providers. -/
def after (c : Situation σ) (is : List (Installation π)) : Situation σ :=
  is.foldl (s.next prompt timeout) c

theorem limit_after (c : Situation σ) (is : List (Installation π)) (provider : String) :
    ((s.after prompt timeout c is).ledger.account provider).limit =
      (c.ledger.account provider).limit := by
  induction is generalizing c with
  | nil => rfl
  | cons i is ih => exact (ih _).trans (limit_after_operations _ _ _)

/-- None of some providers answers when its turn comes after the turns of those before it. -/
def NobodyAnswers (c : Situation σ) (is : List (Installation π)) : Prop :=
  ∀ before i rest text, is = before ++ i :: rest →
    ¬ s.Answers prompt timeout (s.after prompt timeout c before) i text

variable {s prompt timeout}

/-- A turn of a provider in which nobody cancels. -/
theorem NeverCancels.verdict_eq (hs : s.NeverCancels) (c : Situation σ) (i : Installation π) :
    (s.turn prompt c i).verdict timeout =
      if (c.ledger.acquire i.name (s.now c.world)).1 then
        .ofReply ((s.call i prompt (s.elapse c.world)).1.reply timeout)
      else .refused := by
  unfold Surroundings.turn Turn.verdict
  cases (c.ledger.acquire i.name (s.now c.world)).1 with
  | false => rfl
  | true =>
    simp only [if_true]
    rw [CallCourse.ending, CallCourse.isGivenUp, hs.givenUp?]
    rfl

/-- When the turn of a provider ends with an answer. -/
theorem verdict_eq_answered_iff (hs : s.NeverCancels) {c : Situation σ} {i : Installation π}
    {text : String} :
    (s.turn prompt c i).verdict timeout = .answered text ↔ s.Answers prompt timeout c i text := by
  rw [hs.verdict_eq, Answers]
  cases (c.ledger.acquire i.name (s.now c.world)).1 with
  | false => simp
  | true => simp [Verdict.ofReply_eq_answered_iff, CallCourse.reply_eq_ok_iff]

theorem verdict_ne_abandoned (hs : s.NeverCancels) (c : Situation σ) (i : Installation π) :
    (s.turn prompt c i).verdict timeout ≠ .abandoned := by
  rw [hs.verdict_eq]
  split
  · exact Verdict.ofReply_ne_abandoned _
  · exact Verdict.noConfusion

/-! ### The turns of a request that nobody cancels -/

theorem nobodyAnswers_cons {c : Situation σ} {i : Installation π} {is : List (Installation π)} :
    s.NobodyAnswers prompt timeout c (i :: is) ↔
      (∀ text, ¬ s.Answers prompt timeout c i text) ∧
        s.NobodyAnswers prompt timeout (s.next prompt timeout c i) is := by
  constructor
  · intro h
    refine ⟨fun text => h [] i is text rfl, ?_⟩
    intro before j rest text hsplit
    exact h (i :: before) j rest text (by rw [hsplit, List.cons_append])
  · rintro ⟨hfirst, hothers⟩ before j rest text hsplit
    cases before with
    | nil =>
      obtain ⟨rfl, rfl⟩ := List.cons.inj hsplit
      exact hfirst text
    | cons k before =>
      obtain ⟨rfl, htail⟩ := List.cons.inj hsplit
      exact hothers before j rest text htail

/-- Either none of some providers answers, or one is the first that does. -/
theorem nobodyAnswers_or_exists_first (s : Surroundings σ π) (prompt : String) (timeout : Nat)
    (is : List (Installation π)) : ∀ (c : Situation σ),
      s.NobodyAnswers prompt timeout c is ∨
        ∃ before i rest text, is = before ++ i :: rest ∧
          s.NobodyAnswers prompt timeout c before ∧
          s.Answers prompt timeout (s.after prompt timeout c before) i text := by
  induction is with
  | nil =>
    intro c
    refine .inl fun before i rest text hsplit => ?_
    simp at hsplit
  | cons i is ih =>
    intro c
    by_cases hfirst : ∃ text, s.Answers prompt timeout c i text
    · obtain ⟨text, htext⟩ := hfirst
      refine .inr ⟨[], i, is, text, rfl, fun before j rest text hsplit => ?_, htext⟩
      simp at hsplit
    · -- The others are asked in the situation after a turn in vain.
      have hnot : ∀ text, ¬ s.Answers prompt timeout c i text := fun text h => hfirst ⟨text, h⟩
      rcases ih (s.next prompt timeout c i) with
        hnobody | ⟨before, j, rest, text, hsplit, hbefore, hj⟩
      · exact .inl (nobodyAnswers_cons.mpr ⟨hnot, hnobody⟩)
      · refine .inr ⟨i :: before, j, rest, text, ?_, nobodyAnswers_cons.mpr ⟨hnot, hbefore⟩, hj⟩
        rw [hsplit, List.cons_append]

/-- The turns of some providers that all come. -/
def turns (s : Surroundings σ π) (prompt : String) (timeout : Nat) (c : Situation σ) :
    List (Installation π) → List (Turn π)
  | [] => []
  | i :: is => s.turn prompt c i :: turns s prompt timeout (s.next prompt timeout c i) is

theorem installation_turns {is : List (Installation π)} : ∀ {c : Situation σ},
    (s.turns prompt timeout c is).map (·.installation) = is := by
  induction is with
  | nil => intro c; rfl
  | cons i is ih =>
    intro c
    rw [turns, List.map_cons, ih]
    rfl

/-- The first provider that answers is the last that has a turn. -/
theorem passage_cons_of_answers (hs : s.NeverCancels) {c : Situation σ} {i : Installation π}
    {text : String} (h : s.Answers prompt timeout c i text) (rest : List (Installation π)) :
    s.passage prompt timeout c (i :: rest) =
      ⟨[s.turn prompt c i], .answered i text, s.next prompt timeout c i⟩ := by
  rw [passage, hs.isCancelled, if_neg Bool.false_ne_true]
  simp only [(verdict_eq_answered_iff hs).mpr h]

/-- After a provider that does not answer the turn of the next one comes. -/
theorem passage_cons_of_not_answers (hs : s.NeverCancels) {c : Situation σ} {i : Installation π}
    (h : ∀ text, ¬ s.Answers prompt timeout c i text) (rest : List (Installation π)) :
    s.passage prompt timeout c (i :: rest) =
      { s.passage prompt timeout (s.next prompt timeout c i) rest with
        turns := s.turn prompt c i ::
          (s.passage prompt timeout (s.next prompt timeout c i) rest).turns } := by
  rw [passage, hs.isCancelled, if_neg Bool.false_ne_true]
  cases hverdict : (s.turn prompt c i).verdict timeout with
  | answered text => exact absurd ((verdict_eq_answered_iff hs).mp hverdict) (h text)
  | abandoned => exact absurd hverdict (verdict_ne_abandoned hs c i)
  | refused => simp only [hverdict]
  | failed error => simp only [hverdict]

/-- Providers that do not answer have their turns before those that come after them. -/
theorem passage_append_of_nobodyAnswers (hs : s.NeverCancels) (rest : List (Installation π))
    {before : List (Installation π)} : ∀ {c : Situation σ},
      s.NobodyAnswers prompt timeout c before →
        s.passage prompt timeout c (before ++ rest) =
          { s.passage prompt timeout (s.after prompt timeout c before) rest with
            turns := s.turns prompt timeout c before ++
              (s.passage prompt timeout (s.after prompt timeout c before) rest).turns } := by
  induction before with
  | nil => intro c _; rfl
  | cons i before ih =>
    intro c h
    obtain ⟨hfirst, hothers⟩ := nobodyAnswers_cons.mp h
    rw [List.cons_append, passage_cons_of_not_answers hs hfirst, ih hothers]
    rfl

/-- The turns of providers of which one is the first that answers. -/
theorem passage_of_answers (hs : s.NeverCancels) {c : Situation σ}
    {before : List (Installation π)} {i : Installation π} {text : String}
    (hbefore : s.NobodyAnswers prompt timeout c before)
    (h : s.Answers prompt timeout (s.after prompt timeout c before) i text)
    (rest : List (Installation π)) :
    (s.passage prompt timeout c (before ++ i :: rest)).turns =
        s.turns prompt timeout c before ++ [s.turn prompt (s.after prompt timeout c before) i] ∧
      (s.passage prompt timeout c (before ++ i :: rest)).ending = .answered i text := by
  rw [passage_append_of_nobodyAnswers hs _ hbefore, passage_cons_of_answers hs h]
  exact ⟨rfl, rfl⟩

/-- The turns of providers of which none answers. -/
theorem passage_of_nobodyAnswers (hs : s.NeverCancels) {c : Situation σ}
    {is : List (Installation π)} (h : s.NobodyAnswers prompt timeout c is) :
    (s.passage prompt timeout c is).turns = s.turns prompt timeout c is ∧
      (s.passage prompt timeout c is).ending = .failed := by
  have happend := passage_append_of_nobodyAnswers hs [] h
  rw [List.append_nil] at happend
  rw [happend]
  exact ⟨List.append_nil _, rfl⟩

end Surroundings

/-! ### What comes of a request -/

/-- The states that a request comes through in which the providers in some slots have turns. -/
def statePath (slots : List Slot) (status : SuggestionStatus) : List RequestState :=
  [.idle, .promptBuilt] ++ slots.map .awaiting ++ [.ofStatus status]

namespace Orchestrator

variable (o : Orchestrator π) (record : FunctionRecord) (score : HotspotScore)

/-- What is left when a request has been run. -/
theorem run_request (s : Surroundings σ π) (ledger : Ledger) (world : σ) :
    Progress.run s ⟨o.request record score, ledger, world⟩ =
      Progress.undergo ⟨o.request record score, ledger, world⟩
        (s.passage (prompt record score promptLanguage) o.timeout ⟨ledger, world⟩
          o.installations) :=
  Progress.run_eq_passage s rfl

/-- The states that a request comes through with some turns. -/
theorem transitions_request_undergo (turns : List (Turn π)) (ending : Ending π) :
    ((o.request record score).undergo turns ending).transitions =
      links (statePath ((turns.map (·.installation)).map (·.slot)) ending.status) := by
  rw [Request.transitions_undergo, List.map_map]
  simp [statePath, request, Request.start, Request.enter, Request.note, Request.transitions,
    RequestEvent.transition?, links, List.map_map, Function.comp_def]

variable {s : Surroundings σ π} (hs : s.NeverCancels) (ledger : Ledger) (world : σ)
include hs

/-- A request of which somebody is the first to answer. -/
theorem request_of_answers {before rest : List (Installation π)} {i : Installation π}
    {said : String} (hsplit : o.installations = before ++ i :: rest)
    (hbefore : s.NobodyAnswers (prompt record score promptLanguage) o.timeout ⟨ledger, world⟩
      before)
    (h : s.Answers (prompt record score promptLanguage) o.timeout
      (s.after (prompt record score promptLanguage) o.timeout ⟨ledger, world⟩ before) i said) :
    let r := (Progress.run s ⟨o.request record score, ledger, world⟩).request
    r.result? = some ((Ending.answered i said).result record.id) ∧
      r.transitions = links (statePath ((before ++ [i]).map (·.slot)) .succeeded) := by
  intro r
  have hr := congrArg Progress.request (o.run_request record score s ledger world)
  obtain ⟨hturns, hending⟩ := Surroundings.passage_of_answers hs hbefore h rest
  rw [hsplit, Progress.undergo, hturns, hending] at hr
  simp only [r, hr]
  rw [Request.result?_undergo, transitions_request_undergo, List.map_append,
    Surroundings.installation_turns]
  exact ⟨rfl, rfl⟩

/-- A request that nobody answers. -/
theorem request_of_nobodyAnswers
    (h : s.NobodyAnswers (prompt record score promptLanguage) o.timeout ⟨ledger, world⟩
      o.installations) :
    let r := (Progress.run s ⟨o.request record score, ledger, world⟩).request
    r.result? = some (.withoutAnswer record.id .failed) ∧
      r.transitions = links (statePath o.slots .failed) := by
  intro r
  have hr := congrArg Progress.request (o.run_request record score s ledger world)
  obtain ⟨hturns, hending⟩ := Surroundings.passage_of_nobodyAnswers hs h
  rw [Progress.undergo, hturns, hending] at hr
  simp only [r, hr]
  rw [Request.result?_undergo, transitions_request_undergo, Surroundings.installation_turns]
  exact ⟨rfl, rfl⟩

/-- **What comes of a request that nobody cancels.**  The first provider that answers gives the
result, and nobody after it has a turn; the request has failed just when nobody answers.  In any
case the request goes from one state to the next along a path that ends as the result says. -/
theorem first_answer_or_failed :
    let text := prompt record score promptLanguage
    let c : Situation σ := ⟨ledger, world⟩
    let r := (Progress.run s ⟨o.request record score, ledger, world⟩).request
    (∀ before i rest said, o.installations = before ++ i :: rest →
      s.NobodyAnswers text o.timeout c before →
      s.Answers text o.timeout (s.after text o.timeout c before) i said →
        r.result? = some
          { functionId := record.id
            status := .succeeded
            slot? := some i.slot
            provider? := some i.name
            rationale := (Answer.ofText said).rationale
            code := (Answer.ofText said).code } ∧
        r.transitions = links (statePath ((before ++ [i]).map (·.slot)) .succeeded)) ∧
      (r.result? = some (.withoutAnswer record.id .failed) ↔
        s.NobodyAnswers text o.timeout c o.installations) ∧
      ∃ result, r.result? = some result ∧
        (result.status = .succeeded ↔ result.slot?.isSome = true) ∧
        (result.slot?.isSome = true ↔ result.provider?.isSome = true) ∧
        (result.status = .succeeded ∨ result = .withoutAnswer record.id .failed) ∧
        ∃ tried, tried <+: o.slots ∧ r.transitions = links (statePath tried result.status) ∧
          (result.status = .failed → tried = o.slots) := by
  intro text c r
  have hfirst := s.nobodyAnswers_or_exists_first text o.timeout o.installations c
  have hfailed := o.request_of_nobodyAnswers record score hs ledger world
  refine ⟨fun before i rest said => o.request_of_answers record score hs ledger world,
    ⟨?_, fun h => (hfailed h).1⟩, ?_⟩
  · intro hresult
    rcases hfirst with hnobody | ⟨before, i, rest, said, hsplit, hbefore, h⟩
    · exact hnobody
    · -- An answer gives another result.
      have hother := (o.request_of_answers record score hs ledger world hsplit hbefore h).1
      cases hresult.symm.trans hother
  · rcases hfirst with hnobody | ⟨before, i, rest, said, hsplit, hbefore, h⟩
    · obtain ⟨hresult, hpath⟩ := hfailed hnobody
      exact ⟨_, hresult, by simp [SuggestionResult.withoutAnswer],
        by simp [SuggestionResult.withoutAnswer], .inr rfl, o.slots, List.prefix_rfl, hpath,
        fun _ => rfl⟩
    · obtain ⟨hresult, hpath⟩ :=
        o.request_of_answers record score hs ledger world hsplit hbefore h
      have htried : (before ++ [i]).map (·.slot) <+: o.slots := by
        refine ⟨rest.map (·.slot), ?_⟩
        rw [slots, hsplit, ← List.map_append, List.append_assoc, List.singleton_append]
      refine ⟨_, hresult, ?_, ?_, .inl rfl, _, htried, hpath, fun h => nomatch h⟩
      · simp [Ending.result]
      · simp [Ending.result]

end Orchestrator

/-- Surroundings in which every provider says at once the text that it is. -/
def Surroundings.reciting : Surroundings Unit String where
  now _ := 0
  isCancelled _ := false
  elapse := id
  call i _ world := (⟨some (0, .ok i.provider), none⟩, world)

/-- An orchestrator of which the first provider has nothing to say. -/
def Orchestrator.silentFirst : Orchestrator String :=
  ⟨[⟨.primary, "first", " "⟩, ⟨.secondary, "second", "Cache it."⟩], 1000⟩

/-- The provider in the second slot answers when the one in the first gave a blank answer. -/
theorem Orchestrator.first_answer_silentFirst :
    Surroundings.reciting.NeverCancels ∧
      (Progress.run Surroundings.reciting
        ⟨silentFirst.request default default, .empty, ()⟩).request.result? =
          some ⟨default, .succeeded, some .secondary, some "second", "Cache it.", ""⟩ := by
  have hs : Surroundings.reciting.NeverCancels := ⟨fun _ => rfl, fun _ _ _ => rfl⟩
  refine ⟨hs, ?_⟩
  have h := (silentFirst.first_answer_or_failed default default hs .empty ()).1
    [⟨.primary, "first", " "⟩] ⟨.secondary, "second", "Cache it."⟩ [] "Cache it." rfl
  refine (h ?_ ?_).1.trans ?_
  · refine Surroundings.nobodyAnswers_cons.mpr ⟨?_, ?_⟩
    · rintro text ⟨-, ⟨delay, -, hreply⟩, hblank⟩
      cases hreply
      revert hblank
      decide
    · intro before i rest text hsplit
      simp at hsplit
  · refine ⟨?_, ⟨0, Nat.zero_le _, rfl⟩, by decide⟩
    rw [Ledger.acquire_fst, Account.hasBudget, Surroundings.limit_after, Ledger.account_empty]
  · cbv

end EnergyAudit
