import EnergyAudit.Proofs.Ledger.Window
import EnergyAudit.Proofs.Request.Pool
import EnergyAudit.Proofs.Suggestion.Assembly
import Mathlib.Data.List.Perm.Basic

/-!
# Configured budgets

A configuration gives each provider a limit, and the ledger keeps one limit for each name.  So the
limit that counts for a name is that of the last slot in the order of the configuration whose
provider has this name.  Whatever requests share the ledger, the limit of a slot is kept unless a
later slot has a provider of the same name with a higher limit or none; then it is lost.

## Main definitions

* `Pool.historyOf` — what happens in one of the requests that share a ledger.
* `grantTimes`, `callTimes` — when calls are granted, and when they are made.
* `Move.GoesThrough` — moves of the requests of one orchestrator.

## Main results

* `limitInForce_limitSettings_le` — when the limit of a slot counts, or a lower one.
* `Pool.countP_callTimes_le` — a request makes no calls but those it is granted.
* `Pool.map_time_grants` — the calls that are granted are those of which the ledger knows.
* `Orchestrator.budget_kept` — **when the limit of a slot is kept.**
* `Orchestrator.budget_lost_of_same_name` — a limit that is lost.
-/

namespace EnergyAudit

variable {π : Type}

/-! ### The limits of a configuration -/

/-- The limit of a slot counts, or a lower one, if no later slot has a provider of the same name
with a higher limit or none. -/
theorem limitInForce_limitSettings_le {s : SuggestionSettings} {before rest : List Slot}
    {slot : Slot} {p : ProviderSettings} {limit : Nat} (hp : s.provider? slot = some p)
    (hlimit : p.callsPerMinute? = some limit)
    (hlater : ∀ other ∈ rest, ∀ q, s.provider? other = some q → q.name = p.name →
      ∃ n ≤ limit, q.callsPerMinute? = some n) :
    ∃ n ≤ limit, limitInForce p.name (s.limitSettings (before ++ slot :: rest)) = some n := by
  have hsplit : s.limitSettings (before ++ slot :: rest) = s.limitSettings before ++
      .setLimit p.name (some limit) :: s.limitSettings rest := by
    simp [SuggestionSettings.limitSettings, hp, hlimit]
  have hself : LedgerOperation.limitFor? p.name (.setLimit p.name (some limit)) =
      some (some limit) := if_pos rfl
  rw [limitInForce, hsplit, List.filterMap_append, List.filterMap_cons_some hself,
    List.getLast?_append_cons, List.getLast?_eq_getLast_of_ne_nil (List.cons_ne_nil _ _)]
  -- The last limit that is set for the name is that of this slot or of a later one.
  generalize hlast : List.getLast _ _ = last
  rcases List.mem_cons.mp (hlast ▸ List.getLast_mem _) with rfl | hmem
  · exact ⟨limit, Nat.le_refl _, rfl⟩
  · obtain ⟨op, hop, hset⟩ := List.mem_filterMap.mp hmem
    obtain ⟨q, hq, rfl⟩ := List.mem_map.mp hop
    obtain ⟨other, hother, hq⟩ := List.mem_filterMap.mp hq
    obtain ⟨hname, heq⟩ := Option.ite_none_right_eq_some.mp hset
    obtain rfl := Option.some.inj heq
    exact hlater other hother q hq hname

/-- The ledger of an orchestrator has the limits that are set, and its providers have the names. -/
theorem Orchestrator.ofSettings_eq_none {make : ProviderSettings → Except ProviderError π}
    {s : SuggestionSettings} {ledger : Ledger} {a : Assembly π}
    (h : ofSettings make s ledger = (none, a)) :
    a.ledger = ledger.after (s.limitSettings s.order) ∧
      ∀ i ∈ a.orchestrator.installations,
        ∃ p, s.provider? i.slot = some p ∧ i.name = p.name := by
  rcases canMakeAll_or_stopsAfter make s with ⟨hnodup, hmake⟩ | ⟨tried, error, hstop⟩
  · rw [ofSettings_of_canMake hnodup hmake] at h
    obtain ⟨-, rfl⟩ := Prod.ext_iff.mp h
    refine ⟨ledger_addEach hmake, fun i hi => ?_⟩
    rw [installations_addEach_start hnodup] at hi
    exact SuggestionSettings.mem_installations hi
  · rw [ofSettings_of_stopsAfter hstop] at h
    cases h

/-! ### The times of calls -/

/-- When calls to some providers are granted. -/
def grantTimes (p : Installation π → Bool) (hs : List (Happening π)) : List Nat :=
  hs.filterMap fun
    | .granted i now => if p i then some now else none
    | _ => none

/-- When calls to some providers are made in what happens in one request: a call is made when the
last one was granted, at first at the time given. -/
def callTimes (p : Installation π → Bool) : Nat → List (Happening π) → List Nat
  | _, [] => []
  | _, .granted _ now :: hs => callTimes p now hs
  | time, .invoked i _ :: hs =>
    if p i then time :: callTimes p time hs else callTimes p time hs
  | time, _ :: hs => callTimes p time hs

theorem grantTimes_append (p : Installation π → Bool) (hs gs : List (Happening π)) :
    grantTimes p (hs ++ gs) = grantTimes p hs ++ grantTimes p gs :=
  List.filterMap_append

/-- Calls to providers are granted when calls to more providers are. -/
theorem grantTimes_sublist {p q : Installation π → Bool} {hs : List (Happening π)}
    (h : ∀ g ∈ hs, p g.installation = true → q g.installation = true) :
    (grantTimes p hs).Sublist (grantTimes q hs) := by
  induction hs with
  | nil => exact List.Sublist.refl _
  | cons g hs ih =>
    have hrest := ih fun x hx => h x (List.mem_cons_of_mem _ hx)
    have hfirst := h g List.mem_cons_self
    rw [← List.singleton_append, grantTimes_append, grantTimes_append]
    refine List.Sublist.append ?_ hrest
    cases g with
    | granted i now =>
      cases hp : p i with
      | false => simp [grantTimes, hp]
      | true =>
        have hq : q i = true := hfirst hp
        simp [grantTimes, hp, hq]
    | refused | invoked | succeeded | failed | abandoned => exact List.Sublist.refl _

/-- The call that a request has been granted and has not made, if it is to some provider and was
granted at some time. -/
def Request.pending (r : Request π) (p : Installation π → Bool) (inTime : Bool) : Nat :=
  match r.stage with
  | .calling i _ => (p i && inTime).toNat
  | _ => 0

/-- What one step of a request adds to the calls that it makes, and what it leaves of the call that
it was granted. -/
theorem Request.callTimes_perform (r : Request π) (step : RequestStep) (l : Ledger)
    (p : Installation π → Bool) (q : Nat → Bool) (time : Nat) :
    ∃ later made, (∀ gs, callTimes p time (r.happenings step l ++ gs) =
        made ++ callTimes p later gs) ∧
      made.countP q + (r.perform step l).1.pending p (q later) ≤
        r.pending p (q time) + (grantTimes p (r.happenings step l)).countP q := by
  have heffect := r.effect_perform step l
  generalize r.perform step l = next, r.happenings step l = hs at heffect ⊢
  cases heffect with
  | none => exact ⟨time, [], fun _ => rfl, by simp [grantTimes]⟩
  | exhausted | cancelled =>
    exact ⟨time, [], fun _ => rfl, by simp [pending, finish]⟩
  | @granted now i waiting hstage hl =>
    refine ⟨now, [], fun _ => rfl, ?_⟩
    cases hp : p i <;> cases hq : q now <;> simp [pending, hstage, grantTimes, hp, hq]
  | refused => exact ⟨time, [], fun _ => rfl, by simp [pending, passOn]⟩
  | @abandoned course i waiting hstage hend | @succeeded course i waiting text hstage hend
  | @failed course i waiting error hstage hend =>
    refine ⟨time, if course.isGivenUp 0 = true ∨ p i = false then [] else [time], ?_, ?_⟩
    · intro gs
      cases hgivenUp : course.isGivenUp 0 <;> cases hp : p i <;>
        simp [Happening.ofStart, callTimes, hgivenUp, hp]
    · cases hgivenUp : course.isGivenUp 0 <;> cases hp : p i <;> cases hq : q time <;>
        simp [pending, passOn, succeed, hstage, hp, hq]

namespace Pool

/-- What happens in a move in one of the requests that share a ledger. -/
def happeningsOf (s : Pool π) (index : Nat) : Move π → List (Happening π)
  | .step other step => if other = index then s.happenings (.step other step) else []
  | _ => []

/-- What happens in one of the requests that share a ledger. -/
def historyOf (s : Pool π) (index : Nat) : List (Move π) → List (Happening π)
  | [] => []
  | move :: moves => s.happeningsOf index move ++ (s.move move).historyOf index moves

/-- The call that the request in some place has been granted and has not made. -/
def pending (s : Pool π) (index : Nat) (p : Installation π → Bool) (inTime : Bool) : Nat :=
  match s.requests[index]? with
  | some r => r.pending p inTime
  | none => 0

theorem pending_start (s : Pool π) (o : Orchestrator π) (record : FunctionRecord)
    (score : HotspotScore) {index : Nat} {p : Installation π → Bool} {inTime : Bool} :
    (s.move (.start o record score)).pending index p inTime ≤ s.pending index p inTime := by
  unfold pending
  simp only [move]
  rcases Nat.lt_or_ge index s.requests.length with hlt | hge
  · exact Nat.le_of_eq (by rw [List.getElem?_append_left hlt])
  · rw [List.getElem?_append_right hge, List.getElem?_eq_none hge]
    -- The new request has not been granted any call.
    cases index - s.requests.length with
    | zero => exact Nat.le_refl 0
    | succ n => exact Nat.le_refl 0

/-- A step of a request leaves the others as they are. -/
theorem requests_move_step_of_ne (s : Pool π) (step : RequestStep) {other index : Nat}
    (h : other ≠ index) :
    (s.move (.step other step)).requests[index]? = s.requests[index]? := by
  obtain ⟨r, -, hmove, -⟩ | ⟨hmove, -⟩ := s.step_cases other step
  · rw [hmove]
    exact List.getElem?_set_ne h
  · rw [hmove]

/-- A request makes no calls but those that it has been granted. -/
theorem countP_callTimes_le (p : Installation π → Bool) (q : Nat → Bool) (index : Nat)
    {moves : List (Move π)} : ∀ {s : Pool π} {time : Nat},
      (callTimes p time (s.historyOf index moves)).countP q ≤
        s.pending index p (q time) + (grantTimes p (s.historyOf index moves)).countP q := by
  induction moves with
  | nil => intro s time; simp [historyOf, callTimes]
  | cons move moves ih =>
    intro s time
    cases move with
    | start o record score =>
      refine Nat.le_trans ih (Nat.add_le_add_right ?_ _)
      exact s.pending_start o record score
    | setLimit provider limit => exact ih
    | step other step =>
      by_cases hother : other = index
      · subst hother
        obtain ⟨r, hr, hmove, hhappened⟩ | ⟨hmove, hnothing⟩ := s.step_cases other step
        · obtain ⟨later, made, hcalls, hle⟩ := r.callTimes_perform step s.ledger p q time
          have hnow : s.pending other p (q time) = r.pending p (q time) := by
            simp only [pending, hr]
          have hlater : (s.move (.step other step)).pending other p (q later) =
              (r.perform step s.ledger).1.pending p (q later) := by
            obtain ⟨hlt, -⟩ := List.getElem?_eq_some_iff.mp hr
            simp only [hmove, pending, List.getElem?_set_self hlt]
          have hrest := @ih (s.move (.step other step)) later
          simp only [historyOf, happeningsOf, if_true, hhappened, hcalls, grantTimes_append,
            List.countP_append, hnow]
          omega
        · simp only [historyOf, happeningsOf, if_true, hnothing, hmove, List.nil_append]
          exact ih
      · have hpending : (s.move (.step other step)).pending index p (q time) =
            s.pending index p (q time) := by
          unfold pending
          rw [requests_move_step_of_ne s step hother]
        simp only [historyOf, happeningsOf, if_neg hother, List.nil_append]
        exact hpending ▸ ih

/-! ### All requests together -/

theorem countP_flatMap_le {α β : Type} {f g : α → List β} {q : β → Bool} {as : List α}
    (h : ∀ a, (f a).countP q ≤ (g a).countP q) :
    (as.flatMap f).countP q ≤ (as.flatMap g).countP q := by
  induction as with
  | nil => exact Nat.le_refl _
  | cons a as ih =>
    rw [List.flatMap_cons, List.flatMap_cons, List.countP_append, List.countP_append]
    exact Nat.add_le_add (h a) ih

/-- Of different places at most one is the given one. -/
theorem flatMap_ite_sublist {α : Type} {places : List Nat} (hplaces : places.Nodup) (index : Nat)
    (as : List α) : (places.flatMap fun k => if index = k then as else []).Sublist as := by
  induction places with
  | nil => exact List.nil_sublist _
  | cons k places ih =>
    obtain ⟨hk, hrest⟩ := List.nodup_cons.mp hplaces
    rw [List.flatMap_cons]
    by_cases hindex : index = k
    · -- The other places are different from this one.
      have hnone : (places.flatMap fun k => if index = k then as else []) = [] := by
        refine List.flatMap_eq_nil_iff.mpr fun j hj => if_neg ?_
        rintro rfl
        exact hk (hindex ▸ hj)
      rw [if_pos hindex, hnone, List.append_nil]
    · rw [if_neg hindex, List.nil_append]
      exact ih hrest

/-- What is granted in different requests is granted in all of them together. -/
theorem countP_flatMap_grantTimes_le (p : Installation π → Bool) (q : Nat → Bool)
    {places : List Nat} (hplaces : places.Nodup) {moves : List (Move π)} : ∀ {s : Pool π},
      (places.flatMap fun k => grantTimes p (s.historyOf k moves)).countP q ≤
        (grantTimes p (s.history moves)).countP q := by
  induction moves with
  | nil => intro s; simp [historyOf, history, grantTimes]
  | cons move moves ih =>
    intro s
    have hnow : (places.flatMap fun k => grantTimes p (s.happeningsOf k move)).countP q ≤
        (grantTimes p (s.happenings move)).countP q := by
      cases move with
      | start | setLimit =>
        have hnone : places.flatMap (fun _ => ([] : List Nat)) = [] := by simp
        exact Nat.le_trans (Nat.le_of_eq (congrArg (List.countP q) hnone)) (Nat.zero_le _)
      | step other step =>
        have hite : ∀ k, grantTimes p (s.happeningsOf k (.step other step)) =
            if other = k then grantTimes p (s.happenings (.step other step)) else [] := by
          intro k
          by_cases hother : other = k <;> simp [happeningsOf, hother, grantTimes]
        simp only [hite]
        exact (flatMap_ite_sublist hplaces other _).countP_le
    simp only [historyOf, history, grantTimes_append, List.countP_append]
    rw [← (List.flatMap_append_perm places _ _).countP_eq, List.countP_append]
    exact Nat.add_le_add hnow ih

/-- Different requests make no calls but those that are granted. -/
theorem countP_flatMap_callTimes_le (p : Installation π → Bool) (q : Nat → Bool)
    {places : List Nat} (hplaces : places.Nodup) (ledger : Ledger) (moves : List (Move π)) :
    (places.flatMap fun k => callTimes p 0 ((⟨[], ledger⟩ : Pool π).historyOf k moves)).countP q ≤
      (grantTimes p ((⟨[], ledger⟩ : Pool π).history moves)).countP q := by
  refine Nat.le_trans ?_ (countP_flatMap_grantTimes_le p q hplaces)
  refine countP_flatMap_le fun k => ?_
  have hle := @countP_callTimes_le _ p q k moves ⟨[], ledger⟩ 0
  have hnone : (⟨[], ledger⟩ : Pool π).pending k p (q 0) = 0 := rfl
  rwa [hnone, Nat.zero_add] at hle

end Pool

/-! ### The ledger -/

namespace Ledger

theorem grants_append {provider : String} {ops others : List LedgerOperation} : ∀ {l : Ledger},
    l.grants provider (ops ++ others) =
      l.grants provider ops ++ (l.after ops).grants provider others := by
  induction ops with
  | nil => intro l; rfl
  | cons op ops ih =>
    intro l
    rw [List.cons_append, grants, grants, ih, List.append_assoc, after_cons]

/-- Where no limit is set, calls are granted under the limit that there is. -/
theorem limit_of_mem_grants {provider : String} {g : Grant} {ops : List LedgerOperation} :
    ∀ {l : Ledger}, (∀ op ∈ ops, op.limitFor? provider = none) → g ∈ l.grants provider ops →
      g.limit = (l.account provider).limit := by
  induction ops with
  | nil => intro l _ hg; cases hg
  | cons op ops ih =>
    intro l hops hg
    have hop := hops op List.mem_cons_self
    rcases List.mem_append.mp hg with hg | hg
    · cases op with
      | acquire other now =>
        simp only [grant?, Option.mem_toList] at hg
        split at hg
        · rw [← Option.some.inj hg]
        · cases hg
      | setLimit | recordSuccess | recordFailure => cases hg
    · rw [ih (fun o ho => hops o (List.mem_cons_of_mem _ ho)) hg, limit_run, hop, Option.getD_none]

end Ledger

theorem limitFor?_of_mem_operations {hs : List (Happening π)} {op : LedgerOperation}
    (hop : op ∈ operations hs) (provider : String) : op.limitFor? provider = none := by
  obtain ⟨h, -, hhop⟩ := List.mem_filterMap.mp hop
  cases h <;> cases hhop <;> rfl

namespace Request

/-- The calls that are granted in a step are those of which the ledger knows. -/
theorem map_time_grants (r : Request π) (step : RequestStep) (l : Ledger) (provider : String) :
    (l.grants provider (operations (r.happenings step l))).map (·.time) =
      grantTimes (fun i => i.name = provider) (r.happenings step l) := by
  have heffect := r.effect_perform step l
  generalize r.perform step l = next, r.happenings step l = hs at heffect
  cases heffect with
  | none | exhausted | cancelled => rfl
  | @granted now i waiting hstage hl | @refused now i waiting hstage hl =>
    by_cases hname : i.name = provider
    · subst hname
      simp [operations, Happening.operation?, Ledger.grants, Ledger.grant?, grantTimes, hl]
    · simp [operations, Happening.operation?, Ledger.grants, Ledger.grant?, grantTimes, hname]
  | @abandoned course i | @succeeded course i | @failed course i =>
    unfold Happening.ofStart
    split <;> rfl

/-- The ledger is asked for a call only when the turn of a provider comes. -/
theorem times_happenings (r : Request π) (step : RequestStep) (l : Ledger) :
    times (operations (r.happenings step l)) = [] ∨
      ∃ isCancelled now, step = .turn isCancelled now ∧
        times (operations (r.happenings step l)) = [now] := by
  have heffect := r.effect_perform step l
  generalize r.perform step l = next, r.happenings step l = hs at heffect
  cases heffect with
  | none | exhausted | cancelled => exact .inl rfl
  | granted | refused => exact .inr ⟨_, _, rfl, rfl⟩
  | abandoned | succeeded | failed =>
    left
    unfold Happening.ofStart
    split <;> rfl

end Request

/-- The providers that a request may still turn to, with the one that it calls. -/
def Stage.installations : Stage π → List (Installation π)
  | turn waiting => waiting
  | calling i waiting => i :: waiting
  | done _ => []

namespace Request

/-- What happens in a step happens with providers that the request may turn to, and after that it
may turn to no others. -/
theorem installations_perform (r : Request π) (step : RequestStep) (l : Ledger) :
    (∀ h ∈ r.happenings step l, h.installation ∈ r.stage.installations) ∧
      (r.perform step l).1.stage.installations ⊆ r.stage.installations := by
  have heffect := r.effect_perform step l
  generalize r.perform step l = next, r.happenings step l = hs at heffect ⊢
  cases heffect with
  | none => exact ⟨by simp, List.Subset.refl _⟩
  | exhausted | cancelled => exact ⟨by simp, List.nil_subset _⟩
  | granted hstage | refused hstage =>
    simp [hstage, passOn, Stage.installations, Happening.installation]
  | @abandoned course i waiting hstage | @succeeded course i waiting text hstage
  | @failed course i waiting error hstage =>
    cases hgivenUp : course.isGivenUp 0 <;>
      simp [hstage, passOn, succeed, Stage.installations, Happening.ofStart,
        Happening.installation, hgivenUp]

end Request

/-! ### The requests of one orchestrator -/

namespace Move

/-- What is done goes through an orchestrator: its requests start and take steps. -/
def GoesThrough (o : Orchestrator π) : Move π → Prop
  | .start other _ _ => other = o
  | .setLimit _ _ => False
  | .step _ _ => True

/-- The time when the turn of a provider comes. -/
def time? : Move π → Option Nat
  | .step _ (.turn _ now) => some now
  | _ => none

end Move

namespace Pool

variable {o : Orchestrator π}

theorem ledger_move {s : Pool π} {move : Move π} (h : move.GoesThrough o) :
    (s.move move).ledger = s.ledger.after (operations (s.happenings move)) := by
  cases move with
  | start other record score => rfl
  | setLimit provider limit => exact h.elim
  | step index step =>
    obtain ⟨r, -, hmove, hhappened⟩ | ⟨hmove, hnothing⟩ := s.step_cases index step
    · rw [hmove, hhappened]
      exact r.perform_ledger step s.ledger
    · rw [hmove, hnothing]
      rfl

/-- The calls that are granted in all requests are those of which the ledger knows. -/
theorem map_time_grants (provider : String) {moves : List (Move π)} : ∀ {s : Pool π},
    (∀ move ∈ moves, move.GoesThrough o) →
      (s.ledger.grants provider (operations (s.history moves))).map (·.time) =
        grantTimes (fun i => i.name = provider) (s.history moves) := by
  induction moves with
  | nil => intro s _; rfl
  | cons move moves ih =>
    intro s h
    have hfirst := h move List.mem_cons_self
    have hnow : (s.ledger.grants provider (operations (s.happenings move))).map (·.time) =
        grantTimes (fun i => i.name = provider) (s.happenings move) := by
      cases move with
      | start | setLimit => rfl
      | step index step =>
        obtain ⟨r, -, -, hhappened⟩ | ⟨-, hnothing⟩ := s.step_cases index step
        · rw [hhappened]
          exact r.map_time_grants step s.ledger provider
        · rw [hnothing]
          rfl
    rw [history, operations_append, Ledger.grants_append, List.map_append, grantTimes_append, hnow,
      ← ledger_move hfirst, ih fun m hm => h m (List.mem_cons_of_mem _ hm)]

/-- The ledger is asked for calls at the times when the turns of providers come. -/
theorem times_history_sublist {moves : List (Move π)} : ∀ {s : Pool π},
    (times (operations (s.history moves))).Sublist (moves.filterMap Move.time?) := by
  induction moves with
  | nil => intro s; exact List.Sublist.refl _
  | cons move moves ih =>
    intro s
    rw [history, operations_append, times_append, ← List.singleton_append, List.filterMap_append]
    refine List.Sublist.append ?_ ih
    cases move with
    | start | setLimit => exact List.nil_sublist _
    | step index step =>
      obtain ⟨r, -, -, hhappened⟩ | ⟨-, hnothing⟩ := s.step_cases index step
      · rw [hhappened]
        rcases r.times_happenings step s.ledger with hnone | ⟨isCancelled, now, rfl, hnow⟩
        · rw [hnone]
          exact List.nil_sublist _
        · rw [hnow]
          exact List.Sublist.refl _
      · rw [hnothing]
        exact List.nil_sublist _

/-- What happens in requests of an orchestrator happens with its providers. -/
theorem installation_mem_of_mem_history {h : Happening π} {moves : List (Move π)} :
    ∀ {s : Pool π}, (∀ move ∈ moves, move.GoesThrough o) →
      (∀ r ∈ s.requests, r.stage.installations ⊆ o.installations) → h ∈ s.history moves →
        h.installation ∈ o.installations := by
  induction moves with
  | nil => intro s _ _ hh; cases hh
  | cons move moves ih =>
    intro s hmoves hs hh
    have hfirst := hmoves move List.mem_cons_self
    have hrest := fun m hm => hmoves m (List.mem_cons_of_mem _ hm)
    rw [history] at hh
    cases move with
    | setLimit provider limit => exact hfirst.elim
    | start other record score =>
      refine ih hrest (fun r hr => ?_) hh
      rcases List.mem_append.mp hr with hr | hr
      · exact hs r hr
      · rw [List.mem_singleton.mp hr, show other = o from hfirst]
        exact List.Subset.refl _
    | step index step =>
      obtain ⟨r, hr, hmove, hhappened⟩ | ⟨hmove, hnothing⟩ := s.step_cases index step
      · obtain ⟨hwith, hleft⟩ := r.installations_perform step s.ledger
        have hsub := hs r (List.mem_of_getElem? hr)
        rw [hmove, hhappened] at hh
        rcases List.mem_append.mp hh with hh | hh
        · exact hsub (hwith h hh)
        · refine ih hrest (fun next hnext => ?_) hh
          rcases List.mem_or_eq_of_mem_set hnext with hnext | rfl
          · exact hs next hnext
          · exact List.Subset.trans hleft hsub
      · rw [hmove, hnothing] at hh
        exact ih hrest hs hh

end Pool

/-! ### Budgets -/

/-- Whether a time is in the window that starts at some time. -/
def inWindow (start time : Nat) : Bool := start ≤ time ∧ time < start + rateWindow

/-- The calls under a name that are granted in a window to the requests of an orchestrator. -/
theorem countP_grantTimes_le {o : Orchestrator π} {settings : List LedgerOperation}
    {provider : String} {limit : Nat} (hsettings : times settings = [])
    (hlimit : limitInForce provider settings = some limit) {moves : List (Move π)}
    (hmoves : ∀ move ∈ moves, move.GoesThrough o)
    (htimes : (moves.filterMap Move.time?).Pairwise (· ≤ ·)) (start : Nat) :
    (grantTimes (fun i => i.name = provider)
      ((⟨[], Ledger.empty.after settings⟩ : Pool π).history moves)).countP (inWindow start) ≤
        limit := by
  have hsorted := htimes.sublist
    (Pool.times_history_sublist (s := ⟨[], Ledger.empty.after settings⟩))
  have hgranted := Pool.map_time_grants (s := ⟨[], Ledger.empty.after settings⟩) provider hmoves
  generalize (⟨[], Ledger.empty.after settings⟩ : Pool π).history moves = hs at hsorted hgranted ⊢
  have hops : Timely (settings ++ operations hs) := by
    rwa [Timely, times_append, hsettings, List.nil_append]
  have hbefore : Ledger.empty.grants provider settings = [] := by
    have hsub : ((Ledger.empty.grants provider settings).map (·.time)).Sublist (times settings) :=
      Ledger.times_grants_sublist
    rwa [hsettings, List.sublist_nil, List.map_eq_nil_iff] at hsub
  have hgrants : Ledger.empty.grants provider (settings ++ operations hs) =
      (Ledger.empty.after settings).grants provider (operations hs) := by
    rw [Ledger.grants_append, hbefore, List.nil_append]
  have hle := @Ledger.length_grants_le _ hops provider start limit fun g hg _ _ => by
    rw [hgrants] at hg
    rw [Ledger.limit_of_mem_grants (fun op hop => limitFor?_of_mem_operations hop provider) hg,
      Ledger.limit_after_empty, hlimit]
  rw [← hgranted, List.countP_map, List.countP_eq_length_filter, ← hgrants]
  exact hle

theorem times_limitSettings (s : SuggestionSettings) (slots : List Slot) :
    times (s.limitSettings slots) = [] := by
  refine List.filterMap_eq_nil_iff.mpr fun op hop => ?_
  obtain ⟨p, -, rfl⟩ := List.mem_map.mp hop
  rfl

/-- **When the limit of a slot is kept.**  If no later slot in the order of the configuration has a
provider of the same name with a higher limit or none, no more calls than the limit are made in any
window to the provider in the slot, whatever requests go through the orchestrator side by side. -/
theorem Orchestrator.budget_kept (make : ProviderSettings → Except ProviderError π)
    (s : SuggestionSettings) {a : Assembly π} (hassembly : ofSettings make s .empty = (none, a))
    {before rest : List Slot} {slot : Slot} (horder : s.order = before ++ slot :: rest)
    {p : ProviderSettings} (hp : s.provider? slot = some p)
    {limit : Nat} (hlimit : p.callsPerMinute? = some limit)
    (hlater : ∀ other ∈ rest, ∀ q, s.provider? other = some q → q.name = p.name →
      ∃ n ≤ limit, q.callsPerMinute? = some n)
    (moves : List (Move π)) (hmoves : ∀ move ∈ moves, move.GoesThrough a.orchestrator)
    (htimes : (moves.filterMap Move.time?).Pairwise (· ≤ ·)) (places : List Nat)
    (hplaces : places.Nodup) (start : Nat) :
    (places.flatMap fun k => callTimes (fun i => i.slot = slot) 0
      ((⟨[], a.ledger⟩ : Pool π).historyOf k moves)).countP (inWindow start) ≤ limit := by
  obtain ⟨hledger, hnamed⟩ := ofSettings_eq_none hassembly
  obtain ⟨n, hle, hinForce⟩ : ∃ n ≤ limit,
      limitInForce p.name (s.limitSettings s.order) = some n :=
    horder ▸ limitInForce_limitSettings_le hp hlimit hlater
  -- The provider in the slot is one of those with its name.
  have hsub : (grantTimes (fun i => i.slot = slot)
      ((⟨[], a.ledger⟩ : Pool π).history moves)).Sublist
        (grantTimes (fun i => i.name = p.name) ((⟨[], a.ledger⟩ : Pool π).history moves)) := by
    refine grantTimes_sublist fun h hh hslot => ?_
    obtain ⟨q, hq, hname⟩ := hnamed h.installation
      (Pool.installation_mem_of_mem_history hmoves (by simp) hh)
    rw [of_decide_eq_true hslot, hp] at hq
    rw [hname, Option.some.inj hq]
    exact decide_eq_true rfl
  refine Nat.le_trans (Pool.countP_flatMap_callTimes_le _ _ hplaces a.ledger moves) ?_
  refine Nat.le_trans hsub.countP_le (Nat.le_trans ?_ hle)
  rw [hledger]
  exact countP_grantTimes_le (times_limitSettings s s.order) hinForce hmoves htimes start

/-- A provider with one call in any minute, and a second one of the same name with some limit. -/
def SuggestionSettings.sharedName (limit? : Option Nat) : SuggestionSettings :=
  ⟨1000, Slot.all, some (.shared (some 1)), some (.shared limit?)⟩

/-- Two requests at one time in which the first provider is called. -/
def twoRequests (o : Orchestrator Unit) : List (Move Unit) :=
  [.start o default default, .start o default default, .step 0 (.turn false 0),
    .step 1 (.turn false 0), .step 0 (.call ⟨none, none⟩), .step 1 (.call ⟨none, none⟩)]

/-- The first provider is called once at most if the second one has the same limit. -/
theorem Orchestrator.budget_kept_twoRequests :
    let s := SuggestionSettings.sharedName (some 1)
    let (error?, a) := ofSettings (fun _ => .ok ()) s .empty
    error? = none ∧
      ([0, 1].flatMap fun k => callTimes (fun i => i.slot = .primary) 0
        ((⟨[], a.ledger⟩ : Pool Unit).historyOf k (twoRequests a.orchestrator))).countP
          (inWindow 0) ≤ 1 := by
  intro s
  generalize hassembly : ofSettings (fun _ => .ok ()) s .empty = assembly
  obtain ⟨error?, a⟩ := assembly
  obtain rfl : none = error? := congrArg Prod.fst hassembly
  have hlater : ∀ other ∈ [Slot.secondary], ∀ q, s.provider? other = some q → q.name = "shared" →
      ∃ n ≤ 1, q.callsPerMinute? = some n := by
    intro other hother q hq _
    obtain rfl := List.mem_singleton.mp hother
    obtain rfl := Option.some.inj hq
    exact ⟨1, Nat.le_refl 1, rfl⟩
  have hmoves : ∀ move ∈ twoRequests a.orchestrator, move.GoesThrough a.orchestrator := by
    simp [twoRequests, Move.GoesThrough]
  have htimes : ((twoRequests a.orchestrator).filterMap Move.time?).Pairwise (· ≤ ·) := by
    simp [twoRequests, Move.time?, List.filterMap_cons]
  have horder : s.order = [] ++ .primary :: [.secondary] := rfl
  exact ⟨rfl, budget_kept (fun _ => .ok ()) s hassembly horder rfl rfl hlater _ hmoves htimes [0, 1]
    (by decide) 0⟩

/-- The limit of the first provider is lost if the second one has the same name and no limit: two
requests at one time call it twice, though the configuration is a valid one. -/
theorem Orchestrator.budget_lost_of_same_name :
    let s := SuggestionSettings.sharedName none
    let (error?, a) := ofSettings (fun _ => .ok ()) s .empty
    let moves := twoRequests a.orchestrator
    s.fault? = none ∧ error? = none ∧ Slot.primary ∈ s.order ∧
      (s.provider? .primary).map (·.callsPerMinute?) = some (some 1) ∧
      (∀ move ∈ moves, move.GoesThrough a.orchestrator) ∧
      (moves.filterMap Move.time?).Pairwise (· ≤ ·) ∧
      ([0, 1].flatMap fun k => callTimes (fun i => i.slot = .primary) 0
        ((⟨[], a.ledger⟩ : Pool Unit).historyOf k moves)).countP (inWindow 0) = 2 := by
  intro s
  generalize hassembly : ofSettings (fun _ => .ok ()) s .empty = assembly
  obtain ⟨error?, a⟩ := assembly
  obtain rfl : none = error? := congrArg Prod.fst hassembly
  have hinstalled : a.orchestrator.installations =
      [⟨.primary, "shared", ()⟩, ⟨.secondary, "shared", ()⟩] :=
    congrArg (·.2.orchestrator.installations) hassembly.symm
  have hlimit : (a.ledger.account "shared").limit = none := by
    rw [(ofSettings_eq_none hassembly).1, Ledger.limit_after_empty]
    rfl
  have hgranted : ∀ l : Ledger, (l.account "shared").limit = none →
      l.acquire "shared" 0 = (true, (l.acquire "shared" 0).2) := by
    intro l hl
    refine Prod.ext ?_ rfl
    rw [Ledger.acquire_fst, Account.hasBudget, hl]
  have hlimit' : ((a.ledger.acquire "shared" 0).2.account "shared").limit = none :=
    (a.ledger.limit_run (.acquire "shared" 0) "shared").trans hlimit
  refine ⟨by decide +kernel, rfl, by decide, rfl, by simp [twoRequests, Move.GoesThrough],
    by simp [twoRequests, Move.time?, List.filterMap_cons], ?_⟩
  have h := hgranted _ hlimit
  have h' := hgranted _ hlimit'
  generalize (a.ledger.acquire "shared" 0).2 = l at h h'
  generalize (l.acquire "shared" 0).2 = l' at h'
  simp [twoRequests, Pool.historyOf, Pool.happeningsOf, Pool.happenings, Pool.move,
    Request.happenings, Request.perform, Request.takeTurn, Orchestrator.request, Request.start,
    Request.enter, Request.note, hinstalled, h, h', callTimes, Happening.ofStart,
    CallCourse.isGivenUp, CallCourse.ending, CallCourse.reply, CallEnd.ofReply, CallEnd.outcome,
    Happening.ofOutcome, inWindow, rateWindow]

end EnergyAudit
