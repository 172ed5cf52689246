import EnergyAudit.Suggestion.Ledger

/-!
# Operations of the ledger

Whatever is done with a ledger is a sequence of four operations.  Each of them concerns one
provider, and what becomes of the account of that provider depends on nothing but the account.

## Main definitions

* `LedgerOperation`, `LedgerOperation.run` — the operations.
* `Ledger.after` — the ledger after a sequence of operations.
* `LedgerOperation.onAccount` — what an operation does with the account of its provider.
* `limitInForce` — the limit of a provider that was set last.

## Main results

* `Ledger.account_run` — an operation changes the account of its provider and no other.
* `Ledger.account_after_of_forall_ne` — the account of a provider that no operation concerns stays.
* `Ledger.limit_after` — the limit of an account is the one that was set last.
-/

namespace EnergyAudit

/-- What can be done with a ledger. -/
inductive LedgerOperation where
  | setLimit (provider : String) (limit : Option Nat)
  | acquire (provider : String) (now : Nat)
  | recordSuccess (provider : String)
  | recordFailure (provider : String)
deriving DecidableEq, Repr

namespace LedgerOperation

/-- The provider that an operation concerns. -/
def provider : LedgerOperation → String
  | setLimit provider _ => provider
  | acquire provider _ => provider
  | recordSuccess provider => provider
  | recordFailure provider => provider

/-- The ledger after an operation. -/
def run (l : Ledger) : LedgerOperation → Ledger
  | setLimit provider limit => l.setLimit provider limit
  | acquire provider now => (l.acquire provider now).2
  | recordSuccess provider => l.recordSuccess provider
  | recordFailure provider => l.recordFailure provider

/-- What an operation does with the account of its provider. -/
def onAccount : LedgerOperation → Account → Account
  | setLimit _ limit, a => { a with limit }
  | acquire _ now, a => if a.hasBudget now then a.granted now else a.refused now
  | recordSuccess _, a => a.succeeded
  | recordFailure _, a => a.failed

theorem run_eq_update (l : Ledger) (op : LedgerOperation) :
    op.run l = l.update op.provider op.onAccount := by
  cases op with
  | setLimit provider limit => rfl
  | acquire provider now =>
    simp only [run, Ledger.acquire]
    cases h : (l.account provider).hasBudget now <;>
      simp [Ledger.update, LedgerOperation.provider, onAccount, h]
  | recordSuccess provider => rfl
  | recordFailure provider => rfl

/-- The limit that is set for a provider. -/
def limitFor? (provider : String) : LedgerOperation → Option (Option Nat)
  | setLimit other limit => if other = provider then some limit else none
  | _ => none

end LedgerOperation

/-- The limit of a provider that was set last. -/
def limitInForce (provider : String) (ops : List LedgerOperation) : Option Nat :=
  (ops.filterMap (LedgerOperation.limitFor? provider)).getLast?.getD none

namespace Ledger

/-- The ledger after some operations. -/
def after (l : Ledger) (ops : List LedgerOperation) : Ledger := ops.foldl LedgerOperation.run l

@[simp] theorem after_nil (l : Ledger) : l.after [] = l := rfl

@[simp] theorem after_cons (l : Ledger) (op : LedgerOperation) (ops : List LedgerOperation) :
    l.after (op :: ops) = (op.run l).after ops := rfl

theorem after_append (l : Ledger) (ops others : List LedgerOperation) :
    l.after (ops ++ others) = (l.after ops).after others :=
  List.foldl_append

/-! ### Accounts -/

/-- An operation changes the account of its provider and no other. -/
theorem account_run (l : Ledger) (op : LedgerOperation) (provider : String) :
    (op.run l).account provider =
      if op.provider = provider then op.onAccount (l.account provider)
      else l.account provider := by
  rw [LedgerOperation.run_eq_update, account_update]
  split
  · next h => rw [h]
  · rfl

theorem account_run_self (l : Ledger) (op : LedgerOperation) :
    (op.run l).account op.provider = op.onAccount (l.account op.provider) := by
  rw [account_run, if_pos rfl]

/-- The account of a provider that no operation concerns stays as it is. -/
theorem account_after_of_forall_ne {provider : String} {ops : List LedgerOperation} :
    ∀ {l : Ledger}, (∀ op ∈ ops, op.provider ≠ provider) →
      (l.after ops).account provider = l.account provider := by
  induction ops with
  | nil => intro l _; rfl
  | cons op ops ih =>
    intro l h
    have hop : op.provider ≠ provider := h op List.mem_cons_self
    rw [after_cons, ih fun o ho => h o (List.mem_cons_of_mem _ ho), account_run, if_neg hop]

/-- A call that is granted changes the account of its provider and no other. -/
theorem account_acquire_of_granted {l : Ledger} {provider : String} {now : Nat}
    (h : (l.acquire provider now).1 = true) (other : String) :
    (l.acquire provider now).2.account other =
      if provider = other then (l.account other).granted now else l.account other := by
  have hbudget : (l.account provider).hasBudget now = true := (l.acquire_fst provider now) ▸ h
  rw [acquire, if_pos hbudget, account_update]
  by_cases hother : provider = other
  · rw [if_pos hother, if_pos hother, hother]
  · rw [if_neg hother, if_neg hother]

/-! ### Limits -/

theorem limit_run (l : Ledger) (op : LedgerOperation) (provider : String) :
    ((op.run l).account provider).limit =
      (op.limitFor? provider).getD (l.account provider).limit := by
  rw [account_run]
  cases op with
  | setLimit other limit =>
    simp only [LedgerOperation.provider, LedgerOperation.limitFor?, LedgerOperation.onAccount]
    by_cases h : other = provider <;> simp [h]
  | acquire other now =>
    simp only [LedgerOperation.limitFor?, LedgerOperation.onAccount, Option.getD_none]
    split
    · split <;> rfl
    · rfl
  | recordSuccess other =>
    simp only [LedgerOperation.limitFor?, LedgerOperation.onAccount, Option.getD_none]
    split <;> rfl
  | recordFailure other =>
    simp only [LedgerOperation.limitFor?, LedgerOperation.onAccount, Option.getD_none]
    split <;> rfl

/-- The limit of an account is the one that was set last. -/
theorem limit_after {provider : String} {ops : List LedgerOperation} :
    ∀ {l : Ledger}, ((l.after ops).account provider).limit =
      (ops.filterMap (LedgerOperation.limitFor? provider)).getLast?.getD
        (l.account provider).limit := by
  induction ops with
  | nil => intro l; rfl
  | cons op ops ih =>
    intro l
    rw [after_cons, ih, limit_run]
    cases h : op.limitFor? provider with
    | none => rw [List.filterMap_cons_none h, Option.getD_none]
    | some limit =>
      rw [List.filterMap_cons_some h, List.getLast?_cons, Option.getD_some, Option.getD_some]

theorem limit_after_empty (provider : String) (ops : List LedgerOperation) :
    ((empty.after ops).account provider).limit = limitInForce provider ops := by
  rw [limit_after, account_empty, limitInForce]

end Ledger

end EnergyAudit
