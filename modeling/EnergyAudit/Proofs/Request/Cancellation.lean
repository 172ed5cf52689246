import EnergyAudit.Proofs.Request.Discipline

/-!
# Requests that are given up

A request may be given up at any moment.  It ends as cancelled if that is noticed, when the turn of
a provider comes or when a call is over, and then nobody else is asked.  A call that is given up
keeps its attempt and has no outcome.  If the moment comes when it is settled what the last turn
comes to, all goes as it would have gone anyway.

## Main definitions

* `Surroundings.Clock` — a clock by which a request is given up.
* `Surroundings.Clock.wantedUntil` — surroundings in which a request is given up at some moment.
* `Surroundings.Clock.settledAt` — when it is settled what the turn of a provider comes to.
* `Upshot` — what is left of a request.

## Main results

* `Surroundings.Clock.upshot_append` — providers that are done before the moment have their turns.
* `Surroundings.Clock.upshot_cons_cancelled`, `Surroundings.Clock.upshot_cons_abandoned` — how it is
  noticed that the request has been given up.
* `Orchestrator.request_given_up` — what comes of a request that is given up at any moment.
-/

namespace EnergyAudit

variable {σ π : Type}

/-! ### The moment -/

/-- A clock, in milliseconds, that goes on while the turn of a provider is taken and while a call is
waited for. -/
structure Surroundings.Clock (s : Surroundings σ π) (timeout : Nat) where
  time : σ → Nat
  le_elapse : ∀ world, time world ≤ time (s.elapse world)
  le_call : ∀ i prompt world,
    time world + (s.call i prompt world).1.wait timeout ≤ time (s.call i prompt world).2

namespace CallCourse

/-- A request that is given up some time after the start of a call has not been given up before. -/
theorem isGivenUp_of_lt {moment? : Option Nat} {start : Nat} (course : CallCourse) (time : Nat)
    (h : ∀ moment ∈ moment?, start + time < moment) :
    { course with givenUp? := moment?.map (· - start) }.isGivenUp time = false := by
  cases moment? with
  | none => rfl
  | some moment =>
    have hlt := h moment rfl
    simp only [isGivenUp, Option.map_some, decide_eq_false_iff_not]
    omega

theorem ending_of_not_isGivenUp {course : CallCourse} (timeout : Nat)
    (h : course.isGivenUp (course.wait timeout) = false) :
    course.ending timeout = .ofReply (course.reply timeout) := by
  rw [ending, h]
  rfl

end CallCourse

namespace Surroundings.Clock

variable {s : Surroundings σ π} {timeout : Nat} (clock : s.Clock timeout)

/-- The surroundings of a request that is given up at some moment, or never. -/
def wantedUntil (moment? : Option Nat) : Surroundings σ π where
  now := s.now
  isCancelled world := moment?.any fun moment => decide (moment ≤ clock.time world)
  elapse := s.elapse
  call i prompt world :=
    ({ (s.call i prompt world).1 with givenUp? := moment?.map (· - clock.time world) },
      (s.call i prompt world).2)

theorem neverCancels : (clock.wantedUntil none).NeverCancels := ⟨fun _ => rfl, fun _ _ _ => rfl⟩

theorem isCancelled_eq_false {moment? : Option Nat} {world : σ}
    (h : ∀ moment ∈ moment?, clock.time world < moment) :
    (clock.wantedUntil moment?).isCancelled world = false := by
  cases moment? with
  | none => rfl
  | some moment => exact decide_eq_false (Nat.not_le_of_lt (h moment rfl))

variable (prompt : String)

/-- The time when it is settled what the turn of a provider comes to: the end of the wait for the
call, or the beginning of the turn if the ledger refuses the call. -/
def settledAt (c : Situation σ) (i : Installation π) : Nat :=
  if (c.ledger.acquire i.name (s.now c.world)).1 then
    clock.time (s.elapse c.world) + (s.call i prompt (s.elapse c.world)).1.wait timeout
  else clock.time c.world

theorem settledAt_of_granted {c : Situation σ} {i : Installation π}
    (hl : (c.ledger.acquire i.name (s.now c.world)).1 = true) :
    clock.settledAt prompt c i =
      clock.time (s.elapse c.world) + (s.call i prompt (s.elapse c.world)).1.wait timeout :=
  if_pos hl

theorem le_settledAt (c : Situation σ) (i : Installation π) :
    clock.time c.world ≤ clock.settledAt prompt c i := by
  have helapse := clock.le_elapse c.world
  unfold settledAt
  split <;> omega

theorem settledAt_le_next (moment? : Option Nat) (c : Situation σ) (i : Installation π) :
    clock.settledAt prompt c i ≤
      clock.time ((clock.wantedUntil moment?).next prompt timeout c i).world := by
  unfold settledAt next
  cases hl : (c.ledger.acquire i.name (s.now c.world)).1 with
  | false => simpa [wantedUntil, hl] using clock.le_elapse c.world
  | true => simpa [wantedUntil, hl] using clock.le_call i prompt (s.elapse c.world)

theorem time_le_after (moment? : Option Nat) (is : List (Installation π)) : ∀ c : Situation σ,
    clock.time c.world ≤
      clock.time ((clock.wantedUntil moment?).after prompt timeout c is).world := by
  induction is with
  | nil => intro c; exact Nat.le_refl _
  | cons i is ih =>
    intro c
    refine Nat.le_trans ?_ (ih _)
    exact Nat.le_trans (clock.le_settledAt prompt c i) (clock.settledAt_le_next prompt moment? c i)

/-! ### Turns before the moment -/

variable {prompt} (moment? : Option Nat) {c : Situation σ} {i : Installation π}

/-- What a call comes to of which this is settled before the moment. -/
theorem turn_granted (hl : (c.ledger.acquire i.name (s.now c.world)).1 = true)
    (h : ∀ moment ∈ moment?, clock.settledAt prompt c i < moment) :
    let t := (clock.wantedUntil moment?).turn prompt c i
    let reply := (s.call i prompt (s.elapse c.world)).1.reply timeout
    t.verdict timeout = .ofReply reply ∧
      t.happenings prompt timeout =
        [.granted i (s.now c.world), .invoked i prompt,
          .ofOutcome i (CallEnd.ofReply reply).outcome] := by
  intro t reply
  rw [settledAt_of_granted _ _ hl] at h
  have hcall : t.call? = some ((clock.wantedUntil moment?).call i prompt (s.elapse c.world)).1 :=
    if_pos hl
  have hend := CallCourse.ending_of_not_isGivenUp timeout
    (CallCourse.isGivenUp_of_lt (s.call i prompt (s.elapse c.world)).1 _ h)
  have hstart := CallCourse.isGivenUp_of_lt (s.call i prompt (s.elapse c.world)).1 0
    fun moment hmoment =>
      Nat.lt_of_le_of_lt (Nat.add_le_add_left (Nat.zero_le _) _) (h moment hmoment)
  constructor
  · simp only [Turn.verdict, hcall]
    exact congrArg (fun ending => Verdict.ofOutcome (CallEnd.outcome ending)) hend
  · simp only [Turn.happenings, hcall, Happening.ofStart, wantedUntil, hstart, hend]
    rfl

/-- A turn of which it is settled before the moment what it comes to goes as if the request was
never given up. -/
theorem turn_of_lt (h : ∀ moment ∈ moment?, clock.settledAt prompt c i < moment) :
    ((clock.wantedUntil moment?).turn prompt c i).verdict timeout =
        ((clock.wantedUntil none).turn prompt c i).verdict timeout ∧
      ((clock.wantedUntil moment?).turn prompt c i).happenings prompt timeout =
        ((clock.wantedUntil none).turn prompt c i).happenings prompt timeout := by
  cases hl : (c.ledger.acquire i.name (s.now c.world)).1 with
  | false =>
    have hsame : (clock.wantedUntil moment?).turn prompt c i =
        (clock.wantedUntil none).turn prompt c i := by
      simp [turn, wantedUntil, hl]
    rw [hsame]
    exact ⟨rfl, rfl⟩
  | true =>
    obtain ⟨hverdict, hhappens⟩ := clock.turn_granted moment? hl h
    obtain ⟨hverdict', hhappens'⟩ := clock.turn_granted none hl (by simp)
    exact ⟨hverdict.trans hverdict'.symm, hhappens.trans hhappens'.symm⟩

theorem next_of_lt (h : ∀ moment ∈ moment?, clock.settledAt prompt c i < moment) :
    (clock.wantedUntil moment?).next prompt timeout c i =
      (clock.wantedUntil none).next prompt timeout c i := by
  unfold next
  rw [(clock.turn_of_lt moment? h).2]
  rfl

end Surroundings.Clock

/-! ### What is left of a request -/

/-- What is left of a request: its result, what it leaves around it, and what happened in it. -/
structure Upshot (σ π : Type) where
  result? : Option SuggestionResult
  situation : Situation σ
  history : List (Happening π)

/-- The same, when something happened before. -/
def Upshot.behind (u : Upshot σ π) (hs : List (Happening π)) : Upshot σ π :=
  { u with history := hs ++ u.history }

/-- What is left of a request for a function when its turns are over. -/
def Passage.upshot (q : Passage σ π) (functionId : FunctionId) (prompt : String) (timeout : Nat) :
    Upshot σ π :=
  ⟨some (q.ending.result functionId), q.situation, q.turns.flatMap (·.happenings prompt timeout)⟩

/-- What is left of a request when it has been run. -/
def Progress.upshot (s : Surroundings σ π) (p : Progress σ π) : Upshot σ π :=
  ⟨(p.run s).request.result?, ⟨(p.run s).ledger, (p.run s).world⟩, p.runHistory s⟩

theorem Orchestrator.upshot_request (o : Orchestrator π) (s : Surroundings σ π)
    (record : FunctionRecord) (score : HotspotScore) (ledger : Ledger) (world : σ) :
    Progress.upshot s ⟨o.request record score, ledger, world⟩ =
      (s.passage (prompt record score promptLanguage) o.timeout ⟨ledger, world⟩
        o.installations).upshot record.id (prompt record score promptLanguage) o.timeout := by
  have hhistory : Progress.runHistory s ⟨o.request record score, ledger, world⟩ =
      (s.passage (prompt record score promptLanguage) o.timeout ⟨ledger, world⟩
        o.installations).turns.flatMap
          (·.happenings (prompt record score promptLanguage) o.timeout) :=
    Progress.runHistory_eq_passage s rfl
  rw [Progress.upshot, hhistory, o.run_request record score s ledger world, Progress.undergo,
    Request.result?_undergo]
  rfl

/-- None of some providers and one more answers if none of the former does, and not the one more
after them. -/
theorem Surroundings.nobodyAnswers_append_singleton {s : Surroundings σ π} {prompt : String}
    {timeout : Nat} {before : List (Installation π)} {i : Installation π} :
    ∀ {c : Situation σ}, s.NobodyAnswers prompt timeout c (before ++ [i]) ↔
      s.NobodyAnswers prompt timeout c before ∧
        ∀ text, ¬ s.Answers prompt timeout (s.after prompt timeout c before) i text := by
  induction before with
  | nil =>
    intro c
    have hnil : s.NobodyAnswers prompt timeout c [] := by
      intro before j rest text hsplit
      simp at hsplit
    have hnil' : s.NobodyAnswers prompt timeout (s.next prompt timeout c i) [] := by
      intro before j rest text hsplit
      simp at hsplit
    rw [List.nil_append, nobodyAnswers_cons]
    exact ⟨fun h => ⟨hnil, h.1⟩, fun h => ⟨h.2, hnil'⟩⟩
  | cons j before ih =>
    intro c
    rw [List.cons_append, nobodyAnswers_cons, nobodyAnswers_cons, ih, and_assoc]
    rfl

theorem Surroundings.turns_append_singleton {s : Surroundings σ π} {prompt : String}
    {timeout : Nat} {before : List (Installation π)} {i : Installation π} : ∀ {c : Situation σ},
    s.turns prompt timeout c (before ++ [i]) =
      s.turns prompt timeout c before ++ [s.turn prompt (s.after prompt timeout c before) i] := by
  induction before with
  | nil => intro c; rfl
  | cons j before ih =>
    intro c
    rw [List.cons_append, turns, ih]
    rfl

namespace Surroundings.Clock

variable {s : Surroundings σ π} {timeout : Nat} (clock : s.Clock timeout) (functionId : FunctionId)
  (prompt : String)

/-- What is left of the turns of some providers when the request is given up at some moment. -/
def upshot (moment? : Option Nat) (c : Situation σ) (is : List (Installation π)) : Upshot σ π :=
  ((clock.wantedUntil moment?).passage prompt timeout c is).upshot functionId prompt timeout

variable {functionId prompt} {moment : Nat} {c : Situation σ} {i : Installation π}

/-- A request that has been given up when the turn of a provider comes ends at once. -/
theorem upshot_cons_cancelled (h : moment ≤ clock.time c.world) (rest : List (Installation π)) :
    clock.upshot functionId prompt (some moment) c (i :: rest) =
      ⟨some (.withoutAnswer functionId .cancelled), ⟨c.ledger, s.elapse c.world⟩, []⟩ := by
  have hcancelled : (clock.wantedUntil (some moment)).isCancelled c.world = true :=
    decide_eq_true h
  rw [upshot, passage, if_pos hcancelled]
  rfl

/-- The turn in which a request is given up during a call. -/
theorem turn_abandoned (hl : (c.ledger.acquire i.name (s.now c.world)).1 = true)
    (hle : moment ≤ clock.time (s.elapse c.world) +
      (s.call i prompt (s.elapse c.world)).1.wait timeout) :
    let t := (clock.wantedUntil (some moment)).turn prompt c i
    t.verdict timeout = .abandoned ∧
      t.happenings prompt timeout = [.granted i (s.now c.world)] ++
        (if moment ≤ clock.time (s.elapse c.world) then [] else [.invoked i prompt]) ++
        [.abandoned i] := by
  intro t
  have hcall : t.call? = some
      ((clock.wantedUntil (some moment)).call i prompt (s.elapse c.world)).1 := if_pos hl
  generalize hcourse : ((clock.wantedUntil (some moment)).call i prompt (s.elapse c.world)).1 =
    course at hcall
  have hend : course.ending timeout = .cancelled := by
    have hgivenUp : course.isGivenUp (course.wait timeout) = true := by
      subst hcourse
      refine decide_eq_true (Nat.sub_le_iff_le_add'.mpr hle)
    rw [CallCourse.ending, if_pos hgivenUp]
  have hstart : course.isGivenUp 0 = decide (moment ≤ clock.time (s.elapse c.world)) := by
    subst hcourse
    exact decide_eq_decide.mpr (by rw [Nat.le_zero, Nat.sub_eq_zero_iff_le])
  constructor
  · simp only [Turn.verdict, hcall, hend]
    rfl
  · simp only [Turn.happenings, hcall, hend, Happening.ofStart, hstart, decide_eq_true_eq]
    rfl

/-- A request that is given up during a call ends with this call.  The provider is not even asked if
the request had been given up when the call started. -/
theorem upshot_cons_abandoned (hl : (c.ledger.acquire i.name (s.now c.world)).1 = true)
    (hlt : clock.time c.world < moment) (hle : moment ≤ clock.settledAt prompt c i)
    (rest : List (Installation π)) :
    clock.upshot functionId prompt (some moment) c (i :: rest) =
      ⟨some (.withoutAnswer functionId .cancelled),
        ⟨(c.ledger.acquire i.name (s.now c.world)).2, (s.call i prompt (s.elapse c.world)).2⟩,
        [.granted i (s.now c.world)] ++
          (if moment ≤ clock.time (s.elapse c.world) then [] else [.invoked i prompt]) ++
          [.abandoned i]⟩ := by
  rw [settledAt_of_granted _ _ hl] at hle
  have hwanted : (clock.wantedUntil (some moment)).isCancelled c.world = false :=
    decide_eq_false (Nat.not_le_of_lt hlt)
  obtain ⟨hverdict, hhappens⟩ := clock.turn_abandoned hl hle
  have hledger : c.ledger.after (operations (([.granted i (s.now c.world)] ++
      (if moment ≤ clock.time (s.elapse c.world) then [] else [.invoked i prompt]) ++
      [.abandoned i] : List (Happening π)))) = (c.ledger.acquire i.name (s.now c.world)).2 := by
    split <;> rfl
  have hnext : (clock.wantedUntil (some moment)).next prompt timeout c i =
      ⟨(c.ledger.acquire i.name (s.now c.world)).2, (s.call i prompt (s.elapse c.world)).2⟩ := by
    rw [next, hhappens, hledger]
    exact congrArg (Situation.mk _) (if_pos hl)
  rw [upshot, passage, hwanted, if_neg Bool.false_ne_true]
  simp only [hverdict, hnext, Passage.upshot, List.flatMap_singleton, hhappens]
  rfl

/-- A provider that answers before the moment is the last one that has a turn. -/
theorem upshot_cons_answered (moment? : Option Nat) {text : String}
    (h : (clock.wantedUntil none).Answers prompt timeout c i text)
    (hlt : ∀ moment ∈ moment?, clock.settledAt prompt c i < moment)
    (rest : List (Installation π)) :
    clock.upshot functionId prompt moment? c (i :: rest) =
      ⟨some ((Ending.answered i text).result functionId),
        (clock.wantedUntil none).next prompt timeout c i,
        ((clock.wantedUntil none).turn prompt c i).happenings prompt timeout⟩ := by
  have hwanted := clock.isCancelled_eq_false fun moment hmoment =>
    Nat.lt_of_le_of_lt (clock.le_settledAt prompt c i) (hlt moment hmoment)
  have hverdict := (verdict_eq_answered_iff clock.neverCancels).mpr h
  obtain ⟨hsame, hhappens⟩ := clock.turn_of_lt moment? hlt
  rw [upshot, passage, hwanted, if_neg Bool.false_ne_true]
  simp only [hsame, hverdict, Passage.upshot, List.flatMap_singleton, hhappens,
    clock.next_of_lt moment? hlt]

/-- After a provider that does not answer the turn of the next one comes, if it is settled before
the moment that it does not. -/
theorem upshot_cons_missed (moment? : Option Nat)
    (h : ∀ text, ¬ (clock.wantedUntil none).Answers prompt timeout c i text)
    (hlt : ∀ moment ∈ moment?, clock.settledAt prompt c i < moment)
    (rest : List (Installation π)) :
    clock.upshot functionId prompt moment? c (i :: rest) =
      (clock.upshot functionId prompt moment?
        ((clock.wantedUntil none).next prompt timeout c i) rest).behind
          (((clock.wantedUntil none).turn prompt c i).happenings prompt timeout) := by
  have hwanted := clock.isCancelled_eq_false fun moment hmoment =>
    Nat.lt_of_le_of_lt (clock.le_settledAt prompt c i) (hlt moment hmoment)
  obtain ⟨hsame, hhappens⟩ := clock.turn_of_lt moment? hlt
  rw [upshot, passage, hwanted, if_neg Bool.false_ne_true]
  cases hverdict : ((clock.wantedUntil none).turn prompt c i).verdict timeout with
  | answered text =>
    exact absurd ((verdict_eq_answered_iff clock.neverCancels).mp hverdict) (h text)
  | abandoned => exact absurd hverdict (verdict_ne_abandoned clock.neverCancels c i)
  | refused | failed error =>
    simp only [hsame, hverdict, Passage.upshot, List.flatMap_cons, hhappens,
      clock.next_of_lt moment? hlt]
    rfl

/-- Providers that do not answer and are done before the moment have their turns before those that
come after them. -/
theorem upshot_append (moment? : Option Nat) (rest : List (Installation π))
    {before : List (Installation π)} :
    ∀ {c : Situation σ}, (clock.wantedUntil none).NobodyAnswers prompt timeout c before →
      (∀ moment ∈ moment?,
        clock.time ((clock.wantedUntil none).after prompt timeout c before).world < moment) →
      clock.upshot functionId prompt moment? c (before ++ rest) =
        (clock.upshot functionId prompt moment?
          ((clock.wantedUntil none).after prompt timeout c before) rest).behind
            (((clock.wantedUntil none).turns prompt timeout c before).flatMap
              (·.missed prompt)) := by
  induction before with
  | nil => intro c _ _; rfl
  | cons i before ih =>
    intro c h hlt
    obtain ⟨hfirst, hothers⟩ := nobodyAnswers_cons.mp h
    have hsettled : ∀ moment ∈ moment?, clock.settledAt prompt c i < moment :=
      fun moment hmoment => Nat.lt_of_le_of_lt
        (Nat.le_trans (clock.settledAt_le_next prompt none c i)
          (clock.time_le_after prompt none before _)) (hlt moment hmoment)
    rw [List.cons_append, clock.upshot_cons_missed moment? hfirst hsettled, ih hothers hlt,
      clock.neverCancels.happenings_of_not_answers hfirst]
    simp only [Upshot.behind, turns, List.flatMap_cons, List.append_assoc]
    rfl

/-- The same if it is settled before the moment what the turn of the last of them comes to. -/
theorem upshot_append_of_settled (moment? : Option Nat) (rest : List (Installation π))
    {before : List (Installation π)}
    (h : (clock.wantedUntil none).NobodyAnswers prompt timeout c (before ++ [i]))
    (hlt : ∀ moment ∈ moment?,
      clock.settledAt prompt ((clock.wantedUntil none).after prompt timeout c before) i < moment) :
    clock.upshot functionId prompt moment? c (before ++ i :: rest) =
      (clock.upshot functionId prompt moment?
        ((clock.wantedUntil none).after prompt timeout c (before ++ [i])) rest).behind
          (((clock.wantedUntil none).turns prompt timeout c (before ++ [i])).flatMap
            (·.missed prompt)) := by
  obtain ⟨hbefore, hi⟩ := nobodyAnswers_append_singleton.mp h
  have hwanted : ∀ moment ∈ moment?,
      clock.time ((clock.wantedUntil none).after prompt timeout c before).world < moment :=
    fun moment hmoment => Nat.lt_of_le_of_lt (clock.le_settledAt prompt _ i) (hlt moment hmoment)
  rw [clock.upshot_append moment? _ hbefore hwanted, clock.upshot_cons_missed moment? hi hlt,
    clock.neverCancels.happenings_of_not_answers hi, turns_append_singleton, List.flatMap_append,
    List.flatMap_singleton]
  simp only [Upshot.behind, List.append_assoc, after, List.foldl_append]
  rfl

/-- A request that is never given up does not end as cancelled. -/
theorem status_upshot_none (c : Situation σ) (is : List (Installation π))
    {result : SuggestionResult}
    (h : (clock.upshot functionId prompt none c is).result? = some result) :
    result.status ≠ .cancelled := by
  obtain rfl := Option.some.inj h
  rcases (clock.wantedUntil none).nobodyAnswers_or_exists_first prompt timeout is c with
    hnobody | ⟨before, i, rest, text, rfl, hbefore, hi⟩
  · rw [(passage_of_nobodyAnswers clock.neverCancels hnobody).2]
    exact SuggestionStatus.noConfusion
  · rw [(passage_of_answers clock.neverCancels hbefore hi rest).2]
    exact SuggestionStatus.noConfusion

/-- That a request is given up is noticed by its end, or it makes no difference. -/
theorem upshot_cancelled_or_eq (is : List (Installation π)) : ∀ c : Situation σ,
    ((clock.upshot functionId prompt (some moment) c is).result? =
        some (.withoutAnswer functionId .cancelled) ∧
      moment ≤ clock.time (clock.upshot functionId prompt (some moment) c is).situation.world) ∨
    clock.upshot functionId prompt (some moment) c is =
      clock.upshot functionId prompt none c is := by
  induction is with
  | nil => intro c; exact .inr rfl
  | cons i is ih =>
    intro c
    by_cases hturn : moment ≤ clock.time c.world
    · left
      rw [clock.upshot_cons_cancelled hturn]
      exact ⟨rfl, Nat.le_trans hturn (clock.le_elapse c.world)⟩
    by_cases hcall : moment ≤ clock.settledAt prompt c i
    · cases hl : (c.ledger.acquire i.name (s.now c.world)).1 with
      | false =>
        -- A turn in which the ledger refuses the call is over when it begins.
        rw [settledAt, hl, if_neg Bool.false_ne_true] at hcall
        exact absurd hcall hturn
      | true =>
        left
        rw [clock.upshot_cons_abandoned hl (Nat.lt_of_not_le hturn) hcall]
        rw [settledAt_of_granted _ _ hl] at hcall
        exact ⟨rfl, Nat.le_trans hcall (clock.le_call i prompt _)⟩
    have hlt : ∀ m ∈ some moment, clock.settledAt prompt c i < m := by
      rintro m ⟨⟩
      exact Nat.lt_of_not_le hcall
    by_cases hanswers : ∃ text, (clock.wantedUntil none).Answers prompt timeout c i text
    · obtain ⟨text, htext⟩ := hanswers
      right
      rw [clock.upshot_cons_answered (some moment) htext hlt,
        clock.upshot_cons_answered none htext (by simp)]
    · have hnot : ∀ text, ¬ (clock.wantedUntil none).Answers prompt timeout c i text :=
        fun text htext => hanswers ⟨text, htext⟩
      rw [clock.upshot_cons_missed (some moment) hnot hlt,
        clock.upshot_cons_missed none hnot (by simp)]
      rcases ih ((clock.wantedUntil none).next prompt timeout c i) with hcancelled | hsame
      · exact .inl hcancelled
      · exact .inr (congrArg (Upshot.behind · _) hsame)

/-- If it is settled before the moment what the last turn comes to, it makes no difference that the
request is given up. -/
theorem upshot_eq_of_answers {before rest : List (Installation π)} {text : String}
    (hbefore : (clock.wantedUntil none).NobodyAnswers prompt timeout c before)
    (h : (clock.wantedUntil none).Answers prompt timeout
      ((clock.wantedUntil none).after prompt timeout c before) i text)
    (hlt : clock.settledAt prompt ((clock.wantedUntil none).after prompt timeout c before) i <
      moment) :
    clock.upshot functionId prompt (some moment) c (before ++ i :: rest) =
      clock.upshot functionId prompt none c (before ++ i :: rest) := by
  have hwanted := Nat.lt_of_le_of_lt (clock.le_settledAt prompt _ i) hlt
  rw [clock.upshot_append (some moment) _ hbefore (by simpa using hwanted),
    clock.upshot_append none _ hbefore (by simp),
    clock.upshot_cons_answered (some moment) h (by simpa using hlt),
    clock.upshot_cons_answered none h (by simp)]

theorem upshot_eq_of_nobodyAnswers {before : List (Installation π)}
    (h : (clock.wantedUntil none).NobodyAnswers prompt timeout c (before ++ [i]))
    (hlt : clock.settledAt prompt ((clock.wantedUntil none).after prompt timeout c before) i <
      moment) :
    clock.upshot functionId prompt (some moment) c (before ++ [i]) =
      clock.upshot functionId prompt none c (before ++ [i]) := by
  rw [clock.upshot_append_of_settled (some moment) _ h (by simpa using hlt),
    clock.upshot_append_of_settled none _ h (by simp)]
  rfl

end Surroundings.Clock

namespace Surroundings.Clock

/-- What is left of a request to some providers when it is given up at any moment, or never. -/
structure GivenUpAt {s : Surroundings σ π} {timeout : Nat} (clock : s.Clock timeout)
    (functionId : FunctionId) (prompt : String) (is : List (Installation π)) (c : Situation σ)
    (upshot : Option Nat → Upshot σ π) : Prop where
  /-- A request that has been given up at its start asks nobody. -/
  atStart : ∀ moment ≤ clock.time c.world, is ≠ [] →
    upshot (some moment) =
      ⟨some (.withoutAnswer functionId .cancelled), ⟨c.ledger, s.elapse c.world⟩, []⟩
  /-- A request that is given up during a call, or just when the wait for it is over, ends with this
  call, which keeps its attempt.  Nobody else is asked. -/
  duringCall : ∀ before i rest, is = before ++ i :: rest →
    (clock.wantedUntil none).NobodyAnswers prompt timeout c before →
    let d := (clock.wantedUntil none).after prompt timeout c before
    let granted := d.ledger.acquire i.name (s.now d.world)
    granted.1 = true → ∀ moment, clock.time d.world < moment →
      moment ≤ clock.settledAt prompt d i →
        upshot (some moment) =
          ⟨some (.withoutAnswer functionId .cancelled),
            ⟨granted.2, (s.call i prompt (s.elapse d.world)).2⟩,
            ((clock.wantedUntil none).turns prompt timeout c before).flatMap (·.missed prompt) ++
              ([.granted i (s.now d.world)] ++
                (if moment ≤ clock.time (s.elapse d.world) then [] else [.invoked i prompt]) ++
                [.abandoned i])⟩ ∧
        granted.2.counts i.name =
          { d.ledger.counts i.name with attempts := (d.ledger.counts i.name).attempts + 1 } ∧
        ∀ provider ≠ i.name, granted.2.account provider = d.ledger.account provider
  /-- A request that is given up after a turn in vain and before the next one ends without it. -/
  betweenTurns : ∀ before j i rest, is = before ++ j :: i :: rest →
    (clock.wantedUntil none).NobodyAnswers prompt timeout c (before ++ [j]) →
    let d := (clock.wantedUntil none).after prompt timeout c (before ++ [j])
    ∀ moment ≤ clock.time d.world,
      clock.settledAt prompt ((clock.wantedUntil none).after prompt timeout c before) j < moment →
        upshot (some moment) =
          ⟨some (.withoutAnswer functionId .cancelled), ⟨d.ledger, s.elapse d.world⟩,
            ((clock.wantedUntil none).turns prompt timeout c (before ++ [j])).flatMap
              (·.missed prompt)⟩
  /-- A request that is given up after somebody has answered goes as it would have gone anyway. -/
  afterAnswer : ∀ before i rest said, is = before ++ i :: rest →
    (clock.wantedUntil none).NobodyAnswers prompt timeout c before →
    let d := (clock.wantedUntil none).after prompt timeout c before
    (clock.wantedUntil none).Answers prompt timeout d i said →
      ∀ moment, clock.settledAt prompt d i < moment → upshot (some moment) = upshot none
  /-- So does a request that is given up after the last turn was in vain. -/
  afterLast : ∀ before i, is = before ++ [i] →
    (clock.wantedUntil none).NobodyAnswers prompt timeout c is →
      ∀ moment,
        clock.settledAt prompt ((clock.wantedUntil none).after prompt timeout c before) i <
          moment → upshot (some moment) = upshot none
  /-- At no moment does anything else come of it. -/
  noticed_or_same : ∀ moment,
    (upshot (some moment)).result? = some (.withoutAnswer functionId .cancelled) ∨
      upshot (some moment) = upshot none
  /-- No request ends as cancelled that has not been given up by then. -/
  onlyIfGivenUp : ∀ moment? result, (upshot moment?).result? = some result →
    result.status = .cancelled →
      ∃ moment ∈ moment?, moment ≤ clock.time (upshot moment?).situation.world

/-- What is left of the turns of some providers. -/
theorem givenUpAt_upshot {s : Surroundings σ π} {timeout : Nat} (clock : s.Clock timeout)
    (functionId : FunctionId) (prompt : String) (is : List (Installation π)) (c : Situation σ) :
    clock.GivenUpAt functionId prompt is c
      fun moment? => clock.upshot functionId prompt moment? c is where
  atStart moment hle hsome := by
    obtain ⟨i, rest, rfl⟩ := List.exists_cons_of_ne_nil hsome
    exact clock.upshot_cons_cancelled hle rest
  duringCall := by
    intro before i rest hsplit hbefore d granted hl moment hlt hle
    refine ⟨?_, ?_, fun provider hother => ?_⟩
    · rw [hsplit, clock.upshot_append (some moment) _ hbefore (by simpa using hlt),
        clock.upshot_cons_abandoned hl hlt hle]
      rfl
    · rw [Ledger.counts, Ledger.account_acquire_of_granted hl, if_pos rfl]
      rfl
    · rw [Ledger.account_acquire_of_granted hl, if_neg (Ne.symm hother)]
  betweenTurns := by
    intro before j i rest hsplit hbefore d moment hle hlt
    rw [hsplit, clock.upshot_append_of_settled (some moment) _ hbefore (by simpa using hlt),
      clock.upshot_cons_cancelled hle]
    simp only [Upshot.behind, List.append_nil]
  afterAnswer := by
    intro before i rest said hsplit hbefore d h moment hlt
    rw [hsplit]
    exact clock.upshot_eq_of_answers hbefore h hlt
  afterLast before i hsplit h moment hlt := by
    subst hsplit
    exact clock.upshot_eq_of_nobodyAnswers h hlt
  noticed_or_same moment := (clock.upshot_cancelled_or_eq is c).imp_left And.left
  onlyIfGivenUp moment? result hresult hstatus := by
    cases moment? with
    | none => exact absurd hstatus (clock.status_upshot_none c is hresult)
    | some moment =>
      refine ⟨moment, rfl, ?_⟩
      rcases clock.upshot_cancelled_or_eq is c with ⟨-, hle⟩ | hsame
      · exact hle
      · rw [hsame] at hresult
        exact absurd hstatus (clock.status_upshot_none c is hresult)

end Surroundings.Clock

/-- **What comes of a request that is given up at any moment.**  It ends as cancelled, and without
any answer, if the moment comes before the request, during a call or before the turn of one more
provider; what was begun by then is not undone, and nothing more is begun.  Otherwise it makes no
difference. -/
theorem Orchestrator.request_given_up (o : Orchestrator π) {s : Surroundings σ π}
    (clock : s.Clock o.timeout) (record : FunctionRecord) (score : HotspotScore) (ledger : Ledger)
    (world : σ) :
    clock.GivenUpAt record.id (prompt record score promptLanguage) o.installations ⟨ledger, world⟩
      fun moment? => Progress.upshot (clock.wantedUntil moment?)
        ⟨o.request record score, ledger, world⟩ := by
  simp only [o.upshot_request _ record score ledger world]
  exact clock.givenUpAt_upshot record.id _ o.installations ⟨ledger, world⟩

/-- Surroundings in which every provider says after ten milliseconds the text that it is. -/
def Surroundings.dictating : Surroundings Nat String where
  now world := 1000000 * world
  isCancelled _ := false
  elapse := id
  call i _ world := (⟨some (10, .ok i.provider), none⟩, world + 10)

/-- The clock of these surroundings. -/
def Surroundings.dictatingClock (timeout : Nat) : dictating.Clock timeout where
  time := id
  le_elapse _ := Nat.le_refl _
  le_call _ _ _ := Nat.add_le_add_left (Nat.min_le_left _ _) _

/-- A request that is given up during the call to the second provider. -/
theorem Orchestrator.request_given_up_silentFirst :
    let first : Installation String := ⟨.primary, "first", " "⟩
    let second : Installation String := ⟨.secondary, "second", "Cache it."⟩
    let text := prompt default default promptLanguage
    let upshot := Progress.upshot ((Surroundings.dictatingClock 1000).wantedUntil (some 15))
      ⟨silentFirst.request default default, .empty, 0⟩
    upshot.result? = some (.withoutAnswer default .cancelled) ∧
      upshot.history = [.granted first 0, .invoked first text, .failed first,
        .granted second 10000000, .invoked second text, .abandoned second] := by
  intro first second text upshot
  let always := (Surroundings.dictatingClock 1000).wantedUntil none
  let d := always.after text 1000 ⟨.empty, 0⟩ [first]
  have hfirst : (Ledger.empty.acquire first.name 0).1 = true := by
    rw [Ledger.acquire_fst, Ledger.account_empty]
    rfl
  have hsecond : (d.ledger.acquire second.name (1000000 * d.world)).1 = true := by
    rw [Ledger.acquire_fst, Account.hasBudget, Surroundings.limit_after, Ledger.account_empty]
  have hworld : d.world = 10 := if_pos hfirst
  have hnobody : always.NobodyAnswers text 1000 ⟨.empty, 0⟩ [first] := by
    refine Surroundings.nobodyAnswers_cons.mpr ⟨?_, ?_⟩
    · rintro said ⟨-, ⟨delay, -, hreply⟩, hblank⟩
      cases hreply
      revert hblank
      decide
    · intro before i rest said hsplit
      simp at hsplit
  have hmissed : (always.turns text 1000 ⟨.empty, 0⟩ [first]).flatMap (·.missed text) =
      [.granted first 0, .invoked first text, .failed first] := by
    simp [always, Surroundings.turns, Surroundings.turn, Turn.missed, Turn.isCalled,
      Surroundings.Clock.wantedUntil, Surroundings.dictating, hfirst]
  have hsettled : (Surroundings.dictatingClock 1000).settledAt text d second = d.world + 10 :=
    (Surroundings.dictatingClock 1000).settledAt_of_granted text hsecond
  have hlt : d.world < 15 := by omega
  have hle : 15 ≤ (Surroundings.dictatingClock 1000).settledAt text d second := by omega
  have h := ((silentFirst.request_given_up (Surroundings.dictatingClock 1000) default default .empty
    0).duringCall [first] second [] rfl hnobody hsecond 15 hlt hle).1
  have hlast : ([.granted second (1000000 * d.world)] ++
      (if 15 ≤ d.world then [] else [.invoked second text]) ++ [.abandoned second] :
        List (Happening String)) =
      [.granted second 10000000, .invoked second text, .abandoned second] := by
    rw [hworld]
    rfl
  refine ⟨congrArg Upshot.result? h, (congrArg Upshot.history h).trans ?_⟩
  exact congr (congrArg (· ++ ·) hmissed) hlast

end EnergyAudit
