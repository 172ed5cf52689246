import Std.Data.HashMap

/-!
# The ledger of calls

All requests share one ledger.  It counts the calls to each provider and how they ended, and refuses
calls beyond the limit that a provider has for any minute.

The calls of the last minute are kept in the order of their times.  A call is granted if there are
fewer of them than the limit; a refused call is not kept.

## Main definitions

* `CallCounts`, `Account` — what is known of one provider.
* `Ledger` — the accounts of all providers by their names.
* `Ledger.setLimit`, `Ledger.acquire`, `Ledger.recordSuccess`, `Ledger.recordFailure`

## Main results

* `Ledger.account_update` — an update changes the account of one provider and no other.
* `Ledger.acquire_fst` — whether a call is granted depends on one account.
-/

namespace EnergyAudit

/-- The calls to a provider. -/
structure CallCounts where
  /-- Calls that were granted. -/
  attempts : Nat := 0
  successes : Nat := 0
  failures : Nat := 0
  /-- Calls that were refused. -/
  throttled : Nat := 0
deriving BEq, DecidableEq, Repr, Inhabited

/-- The length of the window in which calls are limited, in nanoseconds. -/
def rateWindow : Nat := 60000000000

/-- What is known of one provider.  Times are in nanoseconds. -/
structure Account where
  /-- How many calls are granted in any window; without a limit all are. -/
  limit : Option Nat := none
  /-- The times of the calls that were granted of late, the earliest first. -/
  window : List Nat := []
  counts : CallCounts := {}
deriving BEq, DecidableEq, Repr, Inhabited

namespace Account

/-- The times of calls that still count at some time. -/
def recent (a : Account) (now : Nat) : List Nat :=
  a.window.dropWhile fun time => rateWindow ≤ now - time

/-- Whether one more call is within the limit. -/
def hasBudget (a : Account) (now : Nat) : Bool :=
  match a.limit with
  | none => true
  | some limit => (a.recent now).length < limit

/-- The account after a call was granted. -/
def granted (a : Account) (now : Nat) : Account :=
  { a with
    window := a.recent now ++ [now]
    counts := { a.counts with attempts := a.counts.attempts + 1 } }

/-- The account after a call was refused. -/
def refused (a : Account) (now : Nat) : Account :=
  { a with
    window := a.recent now
    counts := { a.counts with throttled := a.counts.throttled + 1 } }

/-- The account after a call succeeded. -/
def succeeded (a : Account) : Account :=
  { a with counts := { a.counts with successes := a.counts.successes + 1 } }

/-- The account after a call failed. -/
def failed (a : Account) : Account :=
  { a with counts := { a.counts with failures := a.counts.failures + 1 } }

end Account

/-- The accounts of all providers by their names. -/
structure Ledger where
  accounts : Std.HashMap String Account

namespace Ledger

/-- A ledger in which nothing is known of any provider. -/
def empty : Ledger := ⟨∅⟩

instance : Inhabited Ledger := ⟨empty⟩

/-- What is known of a provider. -/
def account (l : Ledger) (provider : String) : Account := l.accounts.getD provider {}

/-- Changes the account of a provider. -/
def update (l : Ledger) (provider : String) (f : Account → Account) : Ledger :=
  ⟨l.accounts.insert provider (f (l.account provider))⟩

/-- The calls to a provider. -/
def counts (l : Ledger) (provider : String) : CallCounts := (l.account provider).counts

/-- Sets or lifts the limit of a provider. -/
def setLimit (l : Ledger) (provider : String) (limit : Option Nat) : Ledger :=
  l.update provider fun a => { a with limit }

/-- Asks for a call to a provider: whether it is granted, and the ledger after that. -/
def acquire (l : Ledger) (provider : String) (now : Nat) : Bool × Ledger :=
  if (l.account provider).hasBudget now then (true, l.update provider (·.granted now))
  else (false, l.update provider (·.refused now))

/-- Notes that a call succeeded. -/
def recordSuccess (l : Ledger) (provider : String) : Ledger := l.update provider Account.succeeded

/-- Notes that a call failed. -/
def recordFailure (l : Ledger) (provider : String) : Ledger := l.update provider Account.failed

/-! ### Accounts after an update -/

@[simp]
theorem account_empty (provider : String) : empty.account provider = {} := by
  simp [account, empty]

/-- An update changes the account of one provider and no other. -/
theorem account_update (l : Ledger) (provider other : String) (f : Account → Account) :
    (l.update provider f).account other =
      if provider = other then f (l.account provider) else l.account other := by
  simp only [account, update, Std.HashMap.getD_insert, beq_iff_eq]

/-- Whether a call is granted depends on the account of its provider. -/
theorem acquire_fst (l : Ledger) (provider : String) (now : Nat) :
    (l.acquire provider now).1 = (l.account provider).hasBudget now := by
  unfold acquire
  cases h : (l.account provider).hasBudget now <;> simp

end Ledger

end EnergyAudit
