import EnergyAudit.Proofs.Ledger.Operation
import Mathlib.Data.List.Basic
import Mathlib.Data.List.Induction

/-!
# The window of calls

An account keeps the times of granted calls in a queue.  It drops them at the front of the queue
once they are too old, and only when the next call is asked for; whether that call is granted
depends on the length of what is left.  Here the calls are counted against everything that has ever
been done with the ledger instead: a call is refused exactly if a limit has been set and as many
calls of the last minute were granted.

## Main definitions

* `Timely` — the times at which calls are asked for do not decrease.
* `Ledger.answers`, `Ledger.grants` — the answers to calls, and the calls that are granted.
* `Account.Recalls` — the invariant: of all granted calls, an account has those that are recent.
* `Ledger.Alike` — two ledgers that give the same answers from some time on.

## Main results

* `Ledger.recalls_after` — the invariant holds after every run.
* `Ledger.acquire_eq_false_iff` — when a call is refused.
* `Ledger.answers_of_alike` — a refused call changes no later answer.
* `Ledger.length_grants_le` — no window holds more calls than the limit.
* `Ledger.sliding_window_exact` — **the limit holds in every window, and exactly.**
-/

namespace EnergyAudit

/-- The time at which a call is asked for. -/
def LedgerOperation.time? : LedgerOperation → Option Nat
  | acquire _ now => some now
  | _ => none

/-- The times at which calls are asked for. -/
def times (ops : List LedgerOperation) : List Nat := ops.filterMap LedgerOperation.time?

/-- The times at which calls are asked for do not decrease. -/
def Timely (ops : List LedgerOperation) : Prop := (times ops).Pairwise (· ≤ ·)

instance (ops : List LedgerOperation) : Decidable (Timely ops) :=
  inferInstanceAs (Decidable ((times ops).Pairwise (· ≤ ·)))

/-- A call that was granted. -/
structure Grant where
  time : Nat
  /-- The limit of the provider at that time. -/
  limit : Option Nat
deriving DecidableEq, Repr

namespace Ledger

/-- Whether the call that an operation asks for is granted. -/
def answer? (l : Ledger) : LedgerOperation → Option Bool
  | .acquire provider now => some (l.acquire provider now).1
  | _ => none

/-- The answers to all calls that are asked for, in their order. -/
def answers (l : Ledger) : List LedgerOperation → List Bool
  | [] => []
  | op :: ops => (l.answer? op).toList ++ (op.run l).answers ops

/-- The call to a provider that an operation is granted. -/
def grant? (l : Ledger) (provider : String) : LedgerOperation → Option Grant
  | .acquire other now =>
    if other = provider ∧ (l.acquire other now).1 then some ⟨now, (l.account provider).limit⟩
    else none
  | _ => none

/-- All calls to a provider that are granted, in their order. -/
def grants (l : Ledger) (provider : String) : List LedgerOperation → List Grant
  | [] => []
  | op :: ops => (l.grant? provider op).toList ++ (op.run l).grants provider ops

end Ledger

@[simp] theorem times_nil : times [] = [] := rfl

@[simp] theorem times_cons (op : LedgerOperation) (ops : List LedgerOperation) :
    times (op :: ops) = op.time?.toList ++ times ops := by
  cases h : op.time? <;> simp [times, h]

theorem times_append (ops others : List LedgerOperation) :
    times (ops ++ others) = times ops ++ times others :=
  List.filterMap_append

/-! ### What is past -/

/-- Whether a call at some time no longer counts. -/
def isPast (now time : Nat) : Bool := rateWindow ≤ now - time

theorem isPast_of_le {now later time : Nat} (hle : now ≤ later) (h : isPast now time = true) :
    isPast later time = true := by
  simp only [isPast, decide_eq_true_eq] at h ⊢
  omega

/-- What was dropped before would be dropped again. -/
theorem dropWhile_dropWhile_append {α : Type} {p q : α → Bool} (hpq : ∀ a, p a = true → q a = true)
    (as bs : List α) : (as.dropWhile p ++ bs).dropWhile q = (as ++ bs).dropWhile q := by
  induction as with
  | nil => rfl
  | cons a as ih =>
    cases hp : p a with
    | true => simp [hp, hpq a hp, ih]
    | false => rw [List.dropWhile_cons_of_neg (by simp [hp])]

/-- In the order of times, the calls that still count are those behind the ones that do not. -/
theorem dropWhile_isPast {ts : List Nat} (h : ts.Pairwise (· ≤ ·)) (now : Nat) :
    ts.dropWhile (isPast now) = ts.filter fun t => now - t < rateWindow := by
  induction ts with
  | nil => rfl
  | cons t ts ih =>
    obtain ⟨hle, hts⟩ := List.pairwise_cons.mp h
    cases ht : isPast now t with
    | true =>
      have hout : ¬ now - t < rateWindow := by
        simpa [isPast] using ht
      rw [List.dropWhile_cons_of_pos ht, ih hts, List.filter_cons_of_neg (by simpa using hout)]
    | false =>
      have hin : now - t < rateWindow := by
        simpa [isPast] using ht
      rw [List.dropWhile_cons_of_neg (by simp [ht]), eq_comm, List.filter_eq_self]
      intro u hu
      rcases List.mem_cons.mp hu with rfl | hu
      · simpa using hin
      · have := hle u hu
        simp only [decide_eq_true_eq]
        omega

/-! ### The invariant -/

namespace Account

theorem recent_refused {a : Account} {now later : Nat} (h : now ≤ later) :
    (a.refused now).recent later = a.recent later := by
  have hgone : ∀ t, isPast now t = true → isPast later t = true := fun _ => isPast_of_le h
  have hdrop := dropWhile_dropWhile_append hgone a.window []
  rwa [List.append_nil, List.append_nil] at hdrop

/-- The calls at `ts` were granted, and from the time `latest` on those of them that are recent are
exactly the calls that the account takes for recent. -/
def Recalls (a : Account) (ts : List Nat) (latest : Nat) : Prop :=
  ∀ now, latest ≤ now → a.recent now = ts.dropWhile (isPast now)

theorem Recalls.mono {a : Account} {ts : List Nat} {latest later : Nat} (h : a.Recalls ts latest)
    (hle : latest ≤ later) : a.Recalls ts later :=
  fun now hnow => h now (Nat.le_trans hle hnow)

/-- Only the window of an account matters. -/
theorem Recalls.of_window_eq {a b : Account} {ts : List Nat} {latest : Nat}
    (h : a.Recalls ts latest) (hwindow : b.window = a.window) : b.Recalls ts latest := by
  intro now hnow
  rw [← h now hnow, recent, recent, hwindow]

theorem Recalls.granted {a : Account} {ts : List Nat} {latest now : Nat} (h : a.Recalls ts latest)
    (hnow : latest ≤ now) : (a.granted now).Recalls (ts ++ [now]) now := by
  intro later hlater
  have hgone : ∀ t, isPast now t = true → isPast later t = true := fun _ => isPast_of_le hlater
  calc (a.granted now).recent later
      = (a.recent now ++ [now]).dropWhile (isPast later) := rfl
    _ = (ts.dropWhile (isPast now) ++ [now]).dropWhile (isPast later) := by rw [h now hnow]
    _ = (ts ++ [now]).dropWhile (isPast later) := dropWhile_dropWhile_append hgone ts [now]

theorem Recalls.refused {a : Account} {ts : List Nat} {latest now : Nat} (h : a.Recalls ts latest)
    (hnow : latest ≤ now) : (a.refused now).Recalls ts now := by
  intro later hlater
  rw [recent_refused hlater]
  exact h later (Nat.le_trans hnow hlater)

end Account

namespace Ledger

theorem grant?_of_ne {l : Ledger} {op : LedgerOperation} {provider : String}
    (h : op.provider ≠ provider) : l.grant? provider op = none := by
  cases op with
  | acquire other now => exact if_neg fun hand => h hand.1
  | setLimit other limit => rfl
  | recordSuccess other => rfl
  | recordFailure other => rfl

/-- **What one operation preserves.**  A call that is granted joins the calls that are recalled; all
else, and all that is done for other providers, leaves them as they are. -/
theorem recalls_run {l : Ledger} {provider : String} {ts : List Nat} {latest : Nat}
    (h : (l.account provider).Recalls ts latest) (op : LedgerOperation)
    (hop : ∀ t ∈ op.time?, latest ≤ t) :
    ((op.run l).account provider).Recalls
      (ts ++ (l.grant? provider op).toList.map (·.time)) (op.time?.getD latest) := by
  rw [account_run]
  by_cases hp : op.provider = provider
  · rw [if_pos hp]
    subst hp
    cases op with
    | setLimit other limit =>
      simp only [grant?, Option.toList_none, List.map_nil, List.append_nil]
      exact h.of_window_eq rfl
    | recordSuccess other =>
      simp only [grant?, Option.toList_none, List.map_nil, List.append_nil]
      exact h.of_window_eq rfl
    | recordFailure other =>
      simp only [grant?, Option.toList_none, List.map_nil, List.append_nil]
      exact h.of_window_eq rfl
    | acquire other now =>
      have hnow : latest ≤ now := hop now rfl
      simp only [LedgerOperation.onAccount, LedgerOperation.provider, LedgerOperation.time?,
        grant?, acquire_fst] at h ⊢
      by_cases hbudget : (l.account other).hasBudget now = true
      · simpa [hbudget] using h.granted hnow
      · simpa [hbudget] using h.refused hnow
  · rw [if_neg hp, grant?_of_ne hp, Option.toList_none, List.map_nil, List.append_nil]
    refine h.mono ?_
    cases ht : op.time? with
    | none => exact Nat.le_refl latest
    | some t => exact hop t ht

/-- **What a run preserves.** -/
theorem recalls_after {provider : String} {ops : List LedgerOperation} :
    ∀ {l : Ledger} {ts : List Nat} {latest bound : Nat}, (l.account provider).Recalls ts latest →
      (latest :: times ops).Pairwise (· ≤ ·) → (∀ t ∈ latest :: times ops, t ≤ bound) →
      ((l.after ops).account provider).Recalls
        (ts ++ (l.grants provider ops).map (·.time)) bound := by
  induction ops with
  | nil =>
    intro l ts latest bound h _ hbound
    rw [grants, List.map_nil, List.append_nil]
    exact h.mono (hbound latest List.mem_cons_self)
  | cons op ops ih =>
    intro l ts latest bound h hsorted hbound
    have hstep := recalls_run h op fun t ht => by
      have hmem : t ∈ times (op :: ops) := by simp [Option.mem_def.mp ht]
      exact (List.pairwise_cons.mp hsorted).1 t hmem
    -- The rest of the run starts at the time of the operation, if it has one.
    have hrest : (op.time?.getD latest :: times ops).Sublist (latest :: times (op :: ops)) := by
      cases ht : op.time? <;> simp [ht]
    rw [after_cons, grants, List.map_append, ← List.append_assoc]
    exact ih hstep (hsorted.sublist hrest) fun t ht => hbound t (hrest.subset ht)

/-! ### Refusals -/

theorem times_grants_sublist {provider : String} {ops : List LedgerOperation} :
    ∀ {l : Ledger}, ((l.grants provider ops).map (·.time)).Sublist (times ops) := by
  induction ops with
  | nil => intro l; exact List.Sublist.refl _
  | cons op ops ih =>
    intro l
    rw [grants, List.map_append, times_cons]
    refine List.Sublist.append ?_ ih
    cases op with
    | acquire other now =>
      simp only [grant?, LedgerOperation.time?]
      split
      · exact List.Sublist.refl _
      · exact List.nil_sublist _
    | setLimit other limit => exact List.nil_sublist _
    | recordSuccess other => exact List.nil_sublist _
    | recordFailure other => exact List.nil_sublist _

/-- The number of granted calls that an account takes for recent is that of all granted calls that
are. -/
theorem length_recent_after {ops : List LedgerOperation} {provider : String} {now : Nat}
    (hops : Timely (ops ++ [.acquire provider now])) :
    (((empty.after ops).account provider).recent now).length =
      ((empty.grants provider ops).filter fun g => now - g.time < rateWindow).length := by
  rw [Timely, times_append, List.pairwise_append] at hops
  obtain ⟨hsorted, -, hlast⟩ := hops
  have hnow : ∀ t ∈ times ops, t ≤ now := fun t ht =>
    hlast t ht now (by simp [LedgerOperation.time?])
  -- An empty account recalls that no call was granted.
  have hstart : ((empty.account provider).Recalls [] 0) := by
    intro later _
    rw [account_empty]
    rfl
  have hrecalls : ((empty.after ops).account provider).Recalls
      ((empty.grants provider ops).map (·.time)) now := by
    refine recalls_after hstart (List.pairwise_cons.mpr ⟨fun t _ => Nat.zero_le t, hsorted⟩) ?_
    intro t ht
    rcases List.mem_cons.mp ht with rfl | ht
    · exact Nat.zero_le now
    · exact hnow t ht
  rw [hrecalls now (Nat.le_refl now), dropWhile_isPast (hsorted.sublist times_grants_sublist),
    List.filter_map, List.length_map]
  rfl

/-- A call is refused exactly if as many recent calls were granted as the limit allows. -/
theorem acquire_eq_false_iff {ops : List LedgerOperation} {provider : String} {now : Nat}
    (hops : Timely (ops ++ [.acquire provider now])) :
    ((empty.after ops).acquire provider now).1 = false ↔
      ∃ limit, limitInForce provider ops = some limit ∧
        limit ≤ ((empty.grants provider ops).filter fun g => now - g.time < rateWindow).length := by
  rw [acquire_fst, ← length_recent_after hops, ← limit_after_empty, Account.hasBudget]
  cases ((empty.after ops).account provider).limit with
  | none => simp
  | some limit => simp

/-! ### Refused calls -/

/-- Two ledgers that differ in no limit, and from some time on in no call that is recent. -/
def Alike (l m : Ledger) (latest : Nat) : Prop :=
  ∀ provider, (l.account provider).limit = (m.account provider).limit ∧
    ∀ now, latest ≤ now → (l.account provider).recent now = (m.account provider).recent now

theorem Alike.hasBudget {l m : Ledger} {latest now : Nat} (h : l.Alike m latest)
    (hnow : latest ≤ now) (provider : String) :
    (l.account provider).hasBudget now = (m.account provider).hasBudget now := by
  rw [Account.hasBudget, Account.hasBudget, (h provider).1, (h provider).2 now hnow]

/-- What is done with two ledgers that are alike leaves them alike. -/
theorem Alike.run {l m : Ledger} {latest : Nat} (h : l.Alike m latest) {op : LedgerOperation}
    (hop : ∀ t ∈ op.time?, latest ≤ t) : (op.run l).Alike (op.run m) (op.time?.getD latest) := by
  intro provider
  have hlimit := (h provider).1
  refine ⟨by rw [limit_run, limit_run, hlimit], ?_⟩
  intro later hlater
  have hle : latest ≤ later := by
    refine Nat.le_trans ?_ hlater
    cases ht : op.time? with
    | none => exact Nat.le_refl latest
    | some t => exact hop t ht
  have hrecent := (h provider).2 later hle
  rw [account_run, account_run]
  by_cases hp : op.provider = provider
  · rw [if_pos hp, if_pos hp]
    cases op with
    | acquire other now =>
      have hnow : latest ≤ now := hop now rfl
      simp only [LedgerOperation.onAccount, h.hasBudget hnow]
      split
      · rw [Account.recent, Account.recent, Account.granted, Account.granted,
          (h provider).2 now hnow]
      · have hlater : now ≤ later := hlater
        rw [Account.recent_refused hlater, Account.recent_refused hlater, hrecent]
    | setLimit other limit => exact hrecent
    | recordSuccess other => exact hrecent
    | recordFailure other => exact hrecent
  · rw [if_neg hp, if_neg hp, hrecent]

/-- Ledgers that are alike answer alike. -/
theorem answers_of_alike {ops : List LedgerOperation} :
    ∀ {l m : Ledger} {latest : Nat}, l.Alike m latest →
      (latest :: times ops).Pairwise (· ≤ ·) → l.answers ops = m.answers ops := by
  induction ops with
  | nil => intro l m latest _ _; rfl
  | cons op ops ih =>
    intro l m latest h hsorted
    have hop : ∀ t ∈ op.time?, latest ≤ t := by
      intro t ht
      have hmem : t ∈ times (op :: ops) := by simp [Option.mem_def.mp ht]
      exact (List.pairwise_cons.mp hsorted).1 t hmem
    have hrest : (op.time?.getD latest :: times ops).Sublist (latest :: times (op :: ops)) := by
      cases ht : op.time? <;> simp [ht]
    have hanswer : l.answer? op = m.answer? op := by
      cases op with
      | acquire other now =>
        rw [answer?, answer?, acquire_fst, acquire_fst, h.hasBudget (hop now rfl)]
      | setLimit other limit => rfl
      | recordSuccess other => rfl
      | recordFailure other => rfl
    rw [answers, answers, hanswer, ih (h.run hop) (hsorted.sublist hrest)]

/-- A call that is refused leaves the ledger alike. -/
theorem alike_of_refused {l : Ledger} {provider : String} {now : Nat}
    (h : (l.acquire provider now).1 = false) :
    (LedgerOperation.acquire provider now |>.run l).Alike l now := by
  rw [acquire_fst] at h
  intro other
  rw [account_run]
  by_cases hp : provider = other
  · subst hp
    simp only [LedgerOperation.provider, LedgerOperation.onAccount, h, Bool.false_eq_true, if_true,
      if_false]
    exact ⟨rfl, fun later hlater => Account.recent_refused hlater⟩
  · have hne : (LedgerOperation.acquire provider now).provider ≠ other := hp
    rw [if_neg hne]
    exact ⟨rfl, fun later _ => rfl⟩

/-! ### Windows -/

/-- A call that was granted was asked for at some point of the run. -/
theorem exists_of_grants_eq {provider : String} {ops : List LedgerOperation} :
    ∀ {l : Ledger} {older newer : List Grant} {g : Grant},
      l.grants provider ops = older ++ g :: newer →
      ∃ before rest, ops = before ++ .acquire provider g.time :: rest ∧
        l.grants provider before = older ∧ ((l.after before).acquire provider g.time).1 = true ∧
        ((l.after before).account provider).limit = g.limit := by
  induction ops with
  | nil =>
    intro l older newer g h
    rw [grants] at h
    simp at h
  | cons op ops ih =>
    intro l older newer g h
    rw [grants] at h
    cases hg : l.grant? provider op with
    | none =>
      rw [hg, Option.toList_none, List.nil_append] at h
      obtain ⟨before, rest, rfl, hbefore, hgranted, hlimit⟩ := ih h
      refine ⟨op :: before, rest, rfl, ?_, hgranted, hlimit⟩
      rw [grants, hg, Option.toList_none, List.nil_append, hbefore]
    | some first =>
      rw [hg, Option.toList_some, List.singleton_append] at h
      cases older with
      | nil =>
        obtain ⟨rfl, -⟩ := List.cons.inj h
        cases op with
        | acquire other now =>
          rw [grant?] at hg
          split at hg
          · next hand =>
            obtain ⟨rfl, hgranted⟩ := hand
            obtain rfl := Option.some.inj hg
            exact ⟨[], ops, rfl, rfl, hgranted, rfl⟩
          · cases hg
        | setLimit other limit => cases hg
        | recordSuccess other => cases hg
        | recordFailure other => cases hg
      | cons eldest older =>
        rw [List.cons_append] at h
        obtain ⟨rfl, htail⟩ := List.cons.inj h
        obtain ⟨before, rest, rfl, hbefore, hgranted, hlimit⟩ := ih htail
        refine ⟨op :: before, rest, rfl, ?_, hgranted, hlimit⟩
        rw [grants, hg, Option.toList_some, List.singleton_append, hbefore]

theorem timely_append_cons {before rest : List LedgerOperation} {op : LedgerOperation}
    (h : Timely (before ++ op :: rest)) : Timely (before ++ [op]) := by
  have hsub : (before ++ [op]).Sublist (before ++ op :: rest) :=
    List.Sublist.append_left (List.Sublist.cons_cons op (List.nil_sublist rest)) before
  exact h.sublist (hsub.filterMap _)

/-- When a call was granted under a limit, fewer of the calls before it were recent. -/
theorem length_recent_lt {ops : List LedgerOperation} (hops : Timely ops) {provider : String}
    {older newer : List Grant} {g : Grant} {limit : Nat}
    (h : empty.grants provider ops = older ++ g :: newer) (hlimit : g.limit = some limit) :
    (older.filter fun e => g.time - e.time < rateWindow).length < limit := by
  obtain ⟨before, rest, rfl, rfl, hgranted, hg⟩ := exists_of_grants_eq h
  have hnot := mt (acquire_eq_false_iff (timely_append_cons hops)).mpr (by simp [hgranted])
  rw [← limit_after_empty, hg, hlimit] at hnot
  exact Nat.lt_of_not_le fun hle => hnot ⟨limit, rfl, hle⟩

/-- **No window holds more calls than the limit.** -/
theorem length_grants_le {ops : List LedgerOperation} (hops : Timely ops) {provider : String}
    {start limit : Nat}
    (hlimit : ∀ g ∈ empty.grants provider ops, start ≤ g.time → g.time < start + rateWindow →
      g.limit = some limit) :
    ((empty.grants provider ops).filter fun g =>
      start ≤ g.time ∧ g.time < start + rateWindow).length ≤ limit := by
  -- The last call in the window found fewer than `limit` calls before it, and all others of the
  -- window are among them.
  have key : ∀ older newer, empty.grants provider ops = older ++ newer →
      (older.filter fun g => start ≤ g.time ∧ g.time < start + rateWindow).length ≤ limit := by
    intro older
    induction older using List.reverseRecOn with
    | nil => intro newer _; exact Nat.zero_le limit
    | append_singleton older g ih =>
      intro newer h
      rw [List.append_assoc, List.singleton_append] at h
      by_cases hg : start ≤ g.time ∧ g.time < start + rateWindow
      · have hmem : g ∈ empty.grants provider ops := by simp [h]
        have hlt := length_recent_lt hops h (hlimit g hmem hg.1 hg.2)
        have hsub : (older.filter fun e => start ≤ e.time ∧ e.time < start + rateWindow).Sublist
            (older.filter fun e => g.time - e.time < rateWindow) := by
          refine List.monotone_filter_right older fun e he => ?_
          simp only [decide_eq_true_eq] at he ⊢
          omega
        have hle := hsub.length_le
        rw [List.filter_append, List.filter_cons_of_pos (by simpa using hg), List.length_append,
          List.filter_nil, List.length_singleton]
        omega
      · rw [List.filter_append, List.filter_cons_of_neg (by simpa using hg), List.filter_nil,
          List.append_nil]
        exact ih (g :: newer) h
  exact key _ [] (List.append_nil _).symm

/-! ### The theorem -/

/-- **The limit holds in every window, and exactly.**  In every run that starts with an empty ledger
and in which time does not run backwards:

* the limit of a provider is always the one that was set last;
* a call is refused exactly if there is a limit and as many granted calls are recent;
* a window in which all calls were granted under one limit holds no more of them;
* a call that is refused changes no later answer;
* calls that were granted while there was no limit count as well. -/
theorem sliding_window_exact (ops : List LedgerOperation) (hops : Timely ops) :
    (∀ before rest provider, ops = before ++ rest →
      ((empty.after before).account provider).limit = limitInForce provider before) ∧
    (∀ before provider now rest, ops = before ++ .acquire provider now :: rest →
      (((empty.after before).acquire provider now).1 = false ↔
        ∃ limit, limitInForce provider before = some limit ∧
          limit ≤ ((empty.grants provider before).filter fun g =>
            now - g.time < rateWindow).length)) ∧
    (∀ provider start limit,
      (∀ g ∈ empty.grants provider ops, start ≤ g.time → g.time < start + rateWindow →
        g.limit = some limit) →
      ((empty.grants provider ops).filter fun g =>
        start ≤ g.time ∧ g.time < start + rateWindow).length ≤ limit) ∧
    (∀ before provider now rest, ops = before ++ .acquire provider now :: rest →
      ((empty.after before).acquire provider now).1 = false →
      (empty.after (before ++ [.acquire provider now])).answers rest =
        (empty.after before).answers rest) ∧
    (∀ before provider now rest limit, ops = before ++ .acquire provider now :: rest →
      limitInForce provider before = some limit →
      limit ≤ ((empty.grants provider before).filter fun g =>
        g.limit = none ∧ now - g.time < rateWindow).length →
      ((empty.after before).acquire provider now).1 = false) := by
  refine ⟨?_, ?_, ?_, ?_, ?_⟩
  · intro before rest provider _
    exact limit_after_empty provider before
  · rintro before provider now rest rfl
    exact acquire_eq_false_iff (timely_append_cons hops)
  · intro provider start limit hlimit
    exact length_grants_le hops hlimit
  · rintro before provider now rest rfl hrefused
    have hrest : (now :: times rest).Pairwise (· ≤ ·) := by
      rw [Timely, times_append, times_cons] at hops
      exact (List.pairwise_append.mp hops).2.1
    rw [after_append, after_cons, after_nil]
    exact answers_of_alike (alike_of_refused hrefused) hrest
  · rintro before provider now rest limit rfl hlimit hle
    rw [acquire_eq_false_iff (timely_append_cons hops)]
    refine ⟨limit, hlimit, Nat.le_trans hle ?_⟩
    refine (List.monotone_filter_right _ fun g hg => ?_).length_le
    simp only [decide_eq_true_eq] at hg ⊢
    exact hg.2

/-- Three calls within two seconds, and a fourth when the first is a minute old. -/
def fourCalls : List LedgerOperation :=
  [.setLimit "p" (some 2), .acquire "p" 0, .acquire "p" 1000000000, .acquire "p" 2000000000,
    .acquire "p" 60000000000]

/-- With a limit of two the third call is refused, and the fourth is not. -/
theorem sliding_window_fourCalls :
    Timely fourCalls ∧
      ((empty.after (fourCalls.take 3)).acquire "p" 2000000000).1 = false ∧
      ((empty.after (fourCalls.take 4)).acquire "p" 60000000000).1 = true := by
  have htimely : Timely fourCalls := by decide
  have hrefused := (sliding_window_exact fourCalls htimely).2.1
  refine ⟨htimely, ?_, ?_⟩
  · refine (hrefused (fourCalls.take 3) "p" 2000000000 [.acquire "p" 60000000000] rfl).mpr
      ⟨2, rfl, ?_⟩
    simp [fourCalls, grants, grant?, acquire_fst, account_run, LedgerOperation.onAccount,
      LedgerOperation.provider, Account.hasBudget, Account.recent, Account.granted, rateWindow]
  · rw [← Bool.not_eq_false]
    intro h
    obtain ⟨limit, hlimit, hle⟩ := (hrefused (fourCalls.take 4) "p" 60000000000 [] rfl).mp h
    obtain rfl := Option.some.inj hlimit
    have hone : ((empty.grants "p" (fourCalls.take 4)).filter fun g =>
        60000000000 - g.time < rateWindow).length = 1 := by
      simp [fourCalls, grants, grant?, acquire_fst, account_run, LedgerOperation.onAccount,
        LedgerOperation.provider, Account.hasBudget, Account.recent, Account.granted, rateWindow]
    omega

end Ledger

end EnergyAudit
