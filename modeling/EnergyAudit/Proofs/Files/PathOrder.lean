import EnergyAudit.Files.Path
import EnergyAudit.Proofs.Sorting
import Mathlib.Data.List.Lex

/-!
# The order of paths

Paths are compared part by part, and parts by their kind and their name.  This orders the lists of
parts strictly and totally, so that a list of files with different paths can be sorted by them in
just one way.

## Main definitions

* `sortByPath` — things that have paths, in the order of their paths.

## Main results

* `arePartsBefore_iff` — parts are compared at the first difference.
* `pairwise_sortByPath` — sorted things with different paths are in strict order.
* `sortByPath_eq_of_perm` — in which order they were before makes no difference.
-/

namespace EnergyAudit.Files

deriving instance ReflBEq, LawfulBEq for PathPart

namespace PathPart

theorem isBefore_name (a b : String) : (name a).isBefore (name b) = true ↔ a < b :=
  decide_eq_true_iff

/-- Parts are in a strict total order: by their kinds, and names in their own order. -/
instance : IsStrictTotalOrder PathPart fun a b => a.isBefore b = true where
  irrefl a := by
    cases a
    case name a => exact fun h => String.lt_irrefl a ((isBefore_name a a).mp h)
    all_goals decide
  trans a b c hab hbc := by
    cases a <;> cases b <;> cases c
    case name.name.name a b c =>
      rw [isBefore_name] at *
      exact String.lt_trans hab hbc
    all_goals simp_all [isBefore, rank]
  trichotomous a b hab hba := by
    cases a <;> cases b
    case name.name a b =>
      rw [isBefore_name] at hab hba
      exact congrArg name (String.le_antisymm hba hab)
    all_goals simp_all [isBefore, rank]

end PathPart

/-- Parts come before others at the first difference, or because there are no more. -/
theorem arePartsBefore_iff {as : List PathPart} : ∀ {bs : List PathPart},
    arePartsBefore as bs = true ↔ List.Lex (fun a b => a.isBefore b = true) as bs := by
  induction as with
  | nil =>
    intro bs
    cases bs with
    | nil => simp [arePartsBefore]
    | cons b bs => simp [arePartsBefore]
  | cons a as ih =>
    intro bs
    cases bs with
    | nil => simp [arePartsBefore]
    | cons b bs =>
      rw [arePartsBefore, Bool.or_eq_true, Bool.and_eq_true, beq_iff_eq, ih]
      constructor
      · rintro (hbefore | ⟨rfl, hrest⟩)
        · exact .rel hbefore
        · exact .cons hrest
      · intro h
        cases h with
        | rel hbefore => exact .inl hbefore
        | cons hrest => exact .inr ⟨rfl, hrest⟩

/-- Lists of parts are in a strict total order. -/
instance : IsStrictTotalOrder (List PathPart) (List.Lex fun a b => a.isBefore b = true) :=
  { isStrictWeakOrder_of_isOrderConnected with }

/-! ### Paths -/

section

variable {a b c : String}

theorem isPathBefore_iff : isPathBefore a b = true ↔
    List.Lex (fun a b => a.isBefore b = true) (pathParts a) (pathParts b) :=
  arePartsBefore_iff

theorem isPathBefore_asymm (h : isPathBefore a b = true) : isPathBefore b a = false := by
  rw [isPathBefore_iff] at h
  exact Bool.eq_false_iff.mpr fun h' => asymm h (isPathBefore_iff.mp h')

/-- Every path stands behind the first of two paths or before the second. -/
theorem isPathBefore_or_isPathBefore (b : String) (h : isPathBefore a c = true) :
    isPathBefore a b = true ∨ isPathBefore b c = true := by
  simp only [isPathBefore_iff] at *
  exact IsOrderConnected.conn _ _ _ h

/-- Of two paths with different parts one comes before the other. -/
theorem pathParts_eq_of_not_isPathBefore (h : isPathBefore a b = false)
    (h' : isPathBefore b a = false) : pathParts a = pathParts b := by
  simp only [← Bool.not_eq_true, isPathBefore_iff] at h h'
  exact Std.Trichotomous.trichotomous _ _ h h'

end

/-! ### Sorting by paths -/

section

variable {α : Type} (path : α → String)

/-- Things that have paths, in the order of their paths. -/
def sortByPath (as : List α) : List α := as.mergeSort fun a b => !isPathBefore (path b) (path a)

theorem sortByPath_perm (as : List α) : (sortByPath path as).Perm as := List.mergeSort_perm _ _

/-- None of the sorted things comes before one that stands before it. -/
theorem pairwise_not_sortByPath (as : List α) :
    (sortByPath path as).Pairwise fun a b => isPathBefore (path b) (path a) = false :=
  pairwise_not_mergeSort isPathBefore_asymm fun b => isPathBefore_or_isPathBefore (path b)

variable {path} {as bs : List α}

/-- Sorted things with different paths are in strict order. -/
theorem pairwise_sortByPath (hdistinct : (as.map fun a => pathParts (path a)).Nodup) :
    (sortByPath path as).Pairwise fun a b => isPathBefore (path a) (path b) = true :=
  pairwise_mergeSort_of_nodup isPathBefore_asymm (fun b => isPathBefore_or_isPathBefore (path b))
    pathParts_eq_of_not_isPathBefore hdistinct

/-- In which order things with different paths were before they are sorted makes no difference. -/
theorem sortByPath_eq_of_perm (hperm : as.Perm bs)
    (hdistinct : (as.map fun a => pathParts (path a)).Nodup) :
    sortByPath path as = sortByPath path bs := by
  refine List.Perm.eq_of_pairwise ?_ (pairwise_not_sortByPath path as)
    (pairwise_not_sortByPath path bs)
    ((sortByPath_perm path as).trans (hperm.trans (sortByPath_perm path bs).symm))
  intro a b ha hb hba hab
  refine List.inj_on_of_nodup_map hdistinct ((sortByPath_perm path as).subset ha)
    (hperm.symm.subset ((sortByPath_perm path bs).subset hb)) ?_
  exact pathParts_eq_of_not_isPathBefore hab hba

end

end EnergyAudit.Files
