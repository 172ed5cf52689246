import EnergyAudit.Proofs.Request.Happening
import EnergyAudit.Suggestion.Orchestrator
import Mathlib.Data.List.Induction

/-!
# Requests that share a ledger

Any number of requests, of one orchestrator or of several, go on side by side and share one ledger.
With every move a request takes a step, a new request starts, or a limit is set; moves come in any
order.  After any moves the ledger tells of each provider how many calls to it were granted, and all
of these have an end in the ledger, are still going on, or belong to requests that were given up.

## Main definitions

* `Pool`, `Move` — requests with their ledger, and what can be done with them.
* `Pool.after`, `Pool.history` — the pool after some moves, and what happened in them.
* `Pool.inFlight`, `Pool.abandoned` — the calls that have no end in the ledger.
* `Pool.Balanced` — what holds of the pool and of what has happened after any moves.

## Main results

* `Request.isCalling_perform`, `Request.hasAbandoned_perform` — the calls of a request in a step.
* `Pool.balanced_move`, `Pool.balanced_after` — every pool is balanced.
* `Pool.counts_balance` — what the counts of a provider are.
* `Pool.exists_after_eq_steps` — a request that goes on in some surroundings makes moves.
-/

namespace EnergyAudit

variable {π : Type}

/-! ### The calls of a request -/

namespace Request

/-- Whether a call to a provider has been granted and has not ended. -/
def isCalling (r : Request π) (provider : String) : Bool :=
  match r.stage with
  | .calling i _ => i.name = provider
  | _ => false

/-- Whether the request was given up during a call to a provider. -/
def hasAbandoned (r : Request π) (provider : String) : Bool :=
  r.events.any fun event => event = .givenUp provider

/-- A request that was given up during a call has ended as cancelled. -/
def EndsGivenUp (r : Request π) : Prop :=
  ∀ provider, r.hasAbandoned provider = true →
    ∃ result, r.result? = some result ∧ result.status = .cancelled

theorem result?_eq_some_iff {r : Request π} {result : SuggestionResult} :
    r.result? = some result ↔ r.stage = .done result := by
  unfold result?
  cases r.stage <;> simp

/-- A call goes on from when it is granted until it succeeds, fails or is abandoned. -/
theorem isCalling_perform (r : Request π) (step : RequestStep) (l : Ledger) (provider : String) :
    ((r.perform step l).1.isCalling provider).toNat +
        occurrences .succeeded provider (r.happenings step l) +
        occurrences .failed provider (r.happenings step l) +
        occurrences .abandoned provider (r.happenings step l) =
      (r.isCalling provider).toNat + occurrences .granted provider (r.happenings step l) := by
  have heffect := r.effect_perform step l
  generalize r.perform step l = next, r.happenings step l = hs at heffect ⊢
  cases heffect with
  | none => rfl
  | exhausted hstage | cancelled hstage => simp [isCalling, finish, hstage]
  | @granted now i waiting hstage hl | @refused now i waiting hstage hl =>
    by_cases hp : i.name = provider <;>
      simp [isCalling, passOn, hstage, hp, occurrences_cons, Happening.kind, Happening.installation]
  | @abandoned course i waiting hstage hend | @succeeded course i waiting text hstage hend
  | @failed course i waiting error hstage hend =>
    by_cases hp : i.name = provider <;>
      simp [isCalling, passOn, succeed, hstage, hp, occurrences_append, occurrences_ofStart,
        occurrences_cons, Happening.kind, Happening.installation]

/-- A request that has not ended has not been given up during a call. -/
theorem EndsGivenUp.hasAbandoned_eq_false {r : Request π} (hr : r.EndsGivenUp)
    (hresult : r.result? = none) (provider : String) : r.hasAbandoned provider = false := by
  rw [← Bool.not_eq_true]
  intro h
  obtain ⟨result, hdone, -⟩ := hr provider h
  rw [hresult] at hdone
  cases hdone

theorem hasAbandoned_perform {r : Request π} (hr : r.EndsGivenUp) (step : RequestStep) (l : Ledger)
    (provider : String) :
    ((r.perform step l).1.hasAbandoned provider).toNat =
      (r.hasAbandoned provider).toNat +
        occurrences .abandoned provider (r.happenings step l) := by
  have heffect := r.effect_perform step l
  generalize r.perform step l = next, r.happenings step l = hs at heffect ⊢
  cases heffect with
  | none => rfl
  | exhausted | cancelled => simp [hasAbandoned, finish, enter, note]
  | granted | refused =>
    simp [hasAbandoned, passOn, enter, note, occurrences_cons, Happening.kind]
  | succeeded | failed =>
    simp [hasAbandoned, passOn, succeed, enter, note, occurrences_append, occurrences_ofStart,
      occurrences_cons, Happening.kind]
  | @abandoned course i waiting hstage hend =>
    have hnot := hr.hasAbandoned_eq_false (by simp [result?, hstage]) provider
    unfold hasAbandoned at hnot ⊢
    by_cases hp : i.name = provider <;>
      simp [enter, note, hnot, hp, occurrences_append, occurrences_ofStart, occurrences_cons,
        Happening.kind, Happening.installation]

/-- A request that has just started has not been given up. -/
theorem endsGivenUp_request (o : Orchestrator π) (record : FunctionRecord) (score : HotspotScore) :
    (o.request record score).EndsGivenUp := by
  intro provider h
  simp [hasAbandoned, Orchestrator.request, start, enter, note] at h

theorem EndsGivenUp.perform {r : Request π} (hr : r.EndsGivenUp) (step : RequestStep)
    (l : Ledger) : (r.perform step l).1.EndsGivenUp := by
  intro provider h
  have heffect := r.effect_perform step l
  have hgivenUp := hasAbandoned_perform hr step l provider
  rw [h] at hgivenUp
  generalize r.perform step l = next, r.happenings step l = hs at heffect hgivenUp ⊢
  cases heffect with
  | none =>
    refine hr provider ?_
    cases hbefore : r.hasAbandoned provider <;> simp [hbefore] at hgivenUp ⊢
  | abandoned => exact ⟨_, rfl, rfl⟩
  | exhausted hstage | cancelled hstage | granted hstage | refused hstage | succeeded hstage
  | failed hstage =>
    -- A request that goes on, or ends in some other way, was not given up before or now.
    rw [hr.hasAbandoned_eq_false (by simp [result?, hstage])] at hgivenUp
    simp [occurrences_append, occurrences_ofStart, occurrences_cons, Happening.kind] at hgivenUp

end Request

/-! ### Pools -/

/-- Requests with the ledger that they share. -/
structure Pool (π : Type) where
  requests : List (Request π)
  ledger : Ledger

/-- What can be done with requests that share a ledger. -/
inductive Move (π : Type) where
  /-- A request for a function starts. -/
  | start (o : Orchestrator π) (record : FunctionRecord) (score : HotspotScore)
  | setLimit (provider : String) (limit : Option Nat)
  /-- The request in some place takes a step. -/
  | step (index : Nat) (step : RequestStep)

namespace Pool

/-- No requests, and a ledger in which nothing is known. -/
def empty : Pool π := ⟨[], .empty⟩

/-- The pool after a move. -/
def move (s : Pool π) : Move π → Pool π
  | .start o record score => { s with requests := s.requests ++ [o.request record score] }
  | .setLimit provider limit => { s with ledger := s.ledger.setLimit provider limit }
  | .step index step =>
    match s.requests[index]? with
    | some r => ⟨s.requests.set index (r.perform step s.ledger).1, (r.perform step s.ledger).2⟩
    | none => s

/-- What happens in a move. -/
def happenings (s : Pool π) : Move π → List (Happening π)
  | .step index step =>
    match s.requests[index]? with
    | some r => r.happenings step s.ledger
    | none => []
  | _ => []

/-- A step is one of the request in some place, or there is no request and nothing happens. -/
theorem step_cases (s : Pool π) (index : Nat) (step : RequestStep) :
    (∃ r, s.requests[index]? = some r ∧
        s.move (.step index step) =
          ⟨s.requests.set index (r.perform step s.ledger).1, (r.perform step s.ledger).2⟩ ∧
        s.happenings (.step index step) = r.happenings step s.ledger) ∨
      s.move (.step index step) = s ∧ s.happenings (.step index step) = [] := by
  cases hr : s.requests[index]? with
  | none => exact .inr (by simp only [move, happenings, hr, and_self])
  | some r => exact .inl ⟨r, rfl, by simp only [move, hr], by simp only [happenings, hr]⟩

/-- The pool after some moves. -/
def after (s : Pool π) (moves : List (Move π)) : Pool π := moves.foldl move s

/-- What happens in some moves. -/
def history (s : Pool π) : List (Move π) → List (Happening π)
  | [] => []
  | move :: moves => s.happenings move ++ (s.move move).history moves

/-- How many calls to a provider were granted and have not ended. -/
def inFlight (s : Pool π) (provider : String) : Nat := s.requests.countP (·.isCalling provider)

/-- How many requests were given up during a call to a provider. -/
def abandoned (s : Pool π) (provider : String) : Nat :=
  s.requests.countP (·.hasAbandoned provider)

/-- What holds of a pool and of all that has happened in it. -/
structure Balanced (s : Pool π) (hs : List (Happening π)) : Prop where
  /-- The ledger counts what has happened. -/
  counts : ∀ provider, s.ledger.counts provider = ({} : CallCounts).plus provider hs
  /-- A call that was granted has ended or goes on. -/
  granted : ∀ provider,
    s.inFlight provider + occurrences .succeeded provider hs + occurrences .failed provider hs +
      occurrences .abandoned provider hs = occurrences .granted provider hs
  /-- A call that was abandoned belongs to a request that was given up. -/
  abandoned : ∀ provider, s.abandoned provider = occurrences .abandoned provider hs
  endsGivenUp : ∀ r ∈ s.requests, r.EndsGivenUp

theorem balanced_empty : (empty : Pool π).Balanced [] where
  counts provider := by simp [empty, Ledger.counts]
  granted provider := rfl
  abandoned provider := rfl
  endsGivenUp r hr := absurd hr List.not_mem_nil

/-- How a count changes when one element is replaced. -/
theorem countP_set_add {α : Type} {p : α → Bool} {l : List α} {index : Nat} {a b : α}
    (h : l[index]? = some a) :
    (l.set index b).countP p + (p a).toNat = l.countP p + (p b).toNat := by
  obtain ⟨hindex, rfl⟩ := List.getElem?_eq_some_iff.mp h
  have hpos : p l[index] = true → 0 < l.countP p := fun hp =>
    List.countP_pos_iff.mpr ⟨_, List.getElem_mem hindex, hp⟩
  rw [List.countP_set hindex]
  cases ha : p l[index] with
  | false => cases p b <;> simp
  | true =>
    have hcount := hpos ha
    cases p b <;> simp <;> omega

/-- A move of requests with their ledger keeps them balanced. -/
theorem balanced_move {s : Pool π} {hs : List (Happening π)} (h : s.Balanced hs) (move : Move π) :
    (s.move move).Balanced (hs ++ s.happenings move) := by
  cases move with
  | start o record score =>
    have hnew : ∀ provider, (o.request record score).hasAbandoned provider = false := by
      intro provider
      rw [← Bool.not_eq_true]
      intro hgivenUp
      obtain ⟨result, hdone, -⟩ := Request.endsGivenUp_request o record score provider hgivenUp
      cases hdone
    -- A new request calls nobody and has not been given up, so that no number changes.
    simp only [happenings, List.append_nil]
    refine ⟨h.counts, ?_, ?_, ?_⟩
    · intro provider
      have hgranted := h.granted provider
      simpa [Pool.move, inFlight, Request.isCalling, Orchestrator.request, Request.start,
        Request.enter, Request.note] using hgranted
    · intro provider
      have habandoned := h.abandoned provider
      simpa [Pool.move, Pool.abandoned, hnew] using habandoned
    · intro r hr
      rcases List.mem_append.mp hr with hr | hr
      · exact h.endsGivenUp r hr
      · rw [List.mem_singleton.mp hr]
        exact Request.endsGivenUp_request o record score
  | setLimit provider limit =>
    simp only [happenings, List.append_nil]
    refine ⟨?_, h.granted, h.abandoned, h.endsGivenUp⟩
    intro other
    rw [← h.counts other]
    simp only [Pool.move, Ledger.counts, Ledger.setLimit, Ledger.account_update]
    split
    · next heq => rw [heq]
    · rfl
  | step index step =>
    simp only [happenings, Pool.move]
    cases hr : s.requests[index]? with
    | none => simpa using h
    | some r =>
      -- Only one request changes; what changes for it changes in the sums.
      have hends := h.endsGivenUp r (List.mem_of_getElem? hr)
      refine ⟨?_, ?_, ?_, ?_⟩
      · intro provider
        rw [Request.counts_perform, h.counts, CallCounts.plus_append]
      · intro provider
        have hcalling := r.isCalling_perform step s.ledger provider
        have hset := countP_set_add (p := (·.isCalling provider))
          (b := (r.perform step s.ledger).1) hr
        have hgranted := h.granted provider
        simp only [inFlight, occurrences_append] at hgranted ⊢
        omega
      · intro provider
        have hgivenUp := Request.hasAbandoned_perform hends step s.ledger provider
        have hset := countP_set_add (p := (·.hasAbandoned provider))
          (b := (r.perform step s.ledger).1) hr
        have habandoned := h.abandoned provider
        simp only [Pool.abandoned, occurrences_append] at habandoned ⊢
        omega
      · intro other hother
        rcases List.mem_or_eq_of_mem_set hother with hother | rfl
        · exact h.endsGivenUp other hother
        · exact hends.perform step s.ledger

/-- After any moves the requests and their ledger are balanced. -/
theorem balanced_after {moves : List (Move π)} : ∀ {s : Pool π} {hs : List (Happening π)},
    s.Balanced hs → (s.after moves).Balanced (hs ++ s.history moves) := by
  induction moves with
  | nil =>
    intro s hs h
    rw [history, List.append_nil]
    exact h
  | cons move moves ih =>
    intro s hs h
    rw [history, ← List.append_assoc]
    exact ih (balanced_move h move)

/-- The ledger of a pool with requests that have all ended, none of them as cancelled, holds an end
of every call. -/
theorem Balanced.eq_zero_of_forall_done {s : Pool π} {hs : List (Happening π)} (h : s.Balanced hs)
    (hdone : ∀ r ∈ s.requests, ∃ result, r.result? = some result ∧ result.status ≠ .cancelled)
    (provider : String) : s.inFlight provider = 0 ∧ s.abandoned provider = 0 := by
  constructor
  · refine List.countP_eq_zero.mpr fun r hr => ?_
    obtain ⟨result, hresult, -⟩ := hdone r hr
    simp [Request.isCalling, Request.result?_eq_some_iff.mp hresult]
  · refine List.countP_eq_zero.mpr fun r hr hgivenUp => ?_
    obtain ⟨result, hresult, hstatus⟩ := hdone r hr
    obtain ⟨other, hother, hcancelled⟩ := h.endsGivenUp r hr provider hgivenUp
    obtain rfl : result = other := Option.some.inj (hresult.symm.trans hother)
    exact hstatus hcancelled

/-- **What the counts of a provider are**, whatever requests share the ledger and in whatever order
their steps come.  Every call that was granted has succeeded, has failed, is still going on, or was
abandoned when its request was given up; the refused calls are counted one by one.  Once all
requests have ended, none of them as cancelled, every call has succeeded or failed. -/
theorem counts_balance (moves : List (Move π)) (provider : String) :
    let s := empty.after moves
    let hs := empty.history moves
    let counts := s.ledger.counts provider
    (counts.attempts =
        counts.successes + counts.failures + s.inFlight provider + s.abandoned provider) ∧
      counts.attempts = occurrences .granted provider hs ∧
      counts.successes = occurrences .succeeded provider hs ∧
      counts.failures = occurrences .failed provider hs ∧
      s.abandoned provider = occurrences .abandoned provider hs ∧
      counts.throttled = occurrences .refused provider hs ∧
      ((∀ r ∈ s.requests, ∃ result, r.result? = some result ∧ result.status ≠ .cancelled) →
        counts.attempts = counts.successes + counts.failures) := by
  intro s hs counts
  have hbalanced : s.Balanced hs := balanced_after balanced_empty
  have hcounts : counts = ({} : CallCounts).plus provider hs := hbalanced.counts provider
  have hgranted := hbalanced.granted provider
  have habandoned := hbalanced.abandoned provider
  have hattempts : counts.attempts = occurrences .granted provider hs := by
    simp [hcounts, CallCounts.plus]
  have hsuccesses : counts.successes = occurrences .succeeded provider hs := by
    simp [hcounts, CallCounts.plus]
  have hfailures : counts.failures = occurrences .failed provider hs := by
    simp [hcounts, CallCounts.plus]
  have hthrottled : counts.throttled = occurrences .refused provider hs := by
    simp [hcounts, CallCounts.plus]
  have hsum : counts.attempts =
      counts.successes + counts.failures + s.inFlight provider + s.abandoned provider := by
    omega
  refine ⟨hsum, hattempts, hsuccesses, hfailures, habandoned, hthrottled, ?_⟩
  intro hdone
  obtain ⟨hinFlight, hnone⟩ := hbalanced.eq_zero_of_forall_done hdone provider
  omega

/-! ### Requests in their surroundings -/

variable {σ : Type}

/-- A step of a request in some surroundings is a move. -/
theorem move_nextStep {s : Pool π} {index : Nat} (around : Surroundings σ π) {p : Progress σ π}
    (hrequest : s.requests[index]? = some p.request) (hledger : s.ledger = p.ledger) :
    s.move (.step index (p.nextStep around)) =
      ⟨s.requests.set index (p.step around).request, (p.step around).ledger⟩ := by
  have hstep := p.step_eq_perform around
  simp only [move, hrequest, hledger, ← hstep]

/-- A request that goes on in some surroundings makes moves. -/
theorem exists_after_eq_steps {index : Nat} (around : Surroundings σ π) {n : Nat} :
    ∀ {s : Pool π} {p : Progress σ π}, s.requests[index]? = some p.request →
      s.ledger = p.ledger → ∃ moves, s.after moves =
        ⟨s.requests.set index (p.steps around n).request, (p.steps around n).ledger⟩ := by
  induction n with
  | zero =>
    intro s p hrequest hledger
    obtain ⟨hindex, hget⟩ := List.getElem?_eq_some_iff.mp hrequest
    refine ⟨[], ?_⟩
    rw [Progress.steps, ← hget, ← hledger, List.set_getElem_self]
    rfl
  | succ n ih =>
    intro s p hrequest hledger
    obtain ⟨hindex, -⟩ := List.getElem?_eq_some_iff.mp hrequest
    have hmove := move_nextStep around hrequest hledger
    have hnext : (s.move (.step index (p.nextStep around))).requests[index]? =
        some (p.step around).request := by
      rw [hmove]
      exact List.getElem?_set_self hindex
    obtain ⟨moves, hmoves⟩ := ih hnext (by rw [hmove])
    refine ⟨.step index (p.nextStep around) :: moves, ?_⟩
    rw [after, List.foldl_cons]
    rw [after, hmove, List.set_set] at hmoves
    rw [hmove, hmoves, Progress.steps]

end Pool

end EnergyAudit
