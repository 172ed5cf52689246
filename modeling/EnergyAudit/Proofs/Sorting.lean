import Mathlib.Data.List.Perm.Basic
import Mathlib.Data.List.Nodup

/-!
# Sorting

Elements of which each may come before the other stay as they are when a list is sorted.  Where
sorting asks only whether a later element comes before an earlier one, these are the ones of which
none comes before the other.  If the elements differ in what the order looks at, there are no such
elements, and the sorted list is in strict order.

## Main results

* `pairwise_mergeSort_stable` — elements that may come either way stay as they are.
* `pairwise_not_mergeSort` — no element of a sorted list comes before one that stands before it.
* `pairwise_mergeSort_of_nodup` — elements that differ are in strict order.
-/

namespace EnergyAudit

variable {α β : Type} {isBefore : α → α → Bool} {as : List α}

/-! ### Elements one after the other -/

/-- Two different elements of a list come one after the other. -/
theorem pair_sublist_or {a b : α} (ha : a ∈ as) (hb : b ∈ as) (hne : a ≠ b) :
    [a, b].Sublist as ∨ [b, a].Sublist as := by
  obtain ⟨before, rest, rfl⟩ := List.append_of_mem ha
  rcases List.mem_append.mp hb with hb | hb
  · right
    exact (List.singleton_sublist.mpr hb).append (List.singleton_sublist.mpr List.mem_cons_self)
  · left
    have hrest : b ∈ rest := (List.mem_cons.mp hb).resolve_left (Ne.symm hne)
    exact ((List.singleton_sublist.mpr hrest).cons_cons a).trans (List.sublist_append_right _ _)

/-- Elements that come one after the other have places in this order. -/
theorem exists_lt_of_pair_sublist {a b : α} (h : [a, b].Sublist as) :
    ∃ k l : Nat, k < l ∧ as[k]? = some a ∧ as[l]? = some b := by
  obtain ⟨before, rest, rfl, ha, hb⟩ := List.cons_sublist_iff.mp h
  obtain ⟨k, hk⟩ := List.getElem?_of_mem ha
  obtain ⟨l, hl⟩ := List.getElem?_of_mem (List.singleton_sublist.mp hb)
  have hlt : k < before.length := (List.getElem?_eq_some_iff.mp hk).1
  refine ⟨k, before.length + l, Nat.lt_add_right l hlt, ?_, ?_⟩
  · rwa [List.getElem?_append_left hlt]
  · rwa [List.getElem?_append_right (Nat.le_add_right _ _), Nat.add_sub_cancel_left]

/-- In a list without repetitions no two elements come one after the other both ways. -/
theorem not_pair_sublist_of_nodup {a b : α} (hnodup : as.Nodup) (h : [a, b].Sublist as) :
    ¬ [b, a].Sublist as := by
  induction as with
  | nil => cases h
  | cons x as ih =>
    obtain ⟨hx, htail⟩ := List.nodup_cons.mp hnodup
    intro hswap
    cases h with
    | cons _ h =>
      cases hswap with
      | cons _ hswap => exact ih htail h hswap
      | cons_cons _ hswap => exact hx (h.subset (by simp))
    | cons_cons _ h =>
      cases hswap with
      | cons _ hswap => exact hx (hswap.subset (by simp))
      | cons_cons _ hswap => exact hx (List.singleton_sublist.mp h)

/-! ### Ties -/

/-- In a sorted list an element may come before those behind it, and it was before those that may
come before it as well. -/
theorem pairwise_mergeSort_stable (le : α → α → Bool)
    (htrans : ∀ a b c, le a b = true → le b c = true → le a c = true)
    (htotal : ∀ a b, (le a b || le b a) = true) (hnodup : as.Nodup) :
    (as.mergeSort le).Pairwise fun a b =>
      le a b = true ∧ (le b a = true → [a, b].Sublist as) := by
  have hnodup' : (as.mergeSort le).Nodup := (List.mergeSort_perm as le).nodup_iff.mpr hnodup
  refine List.pairwise_iff_forall_sublist.mpr ?_
  intro a b h
  have hle : le a b = true :=
    List.pairwise_iff_forall_sublist.mp (List.pairwise_mergeSort htrans htotal as) h
  refine ⟨hle, fun hback => ?_⟩
  have ha : a ∈ as := List.mem_mergeSort.mp (h.subset (by simp))
  have hb : b ∈ as := List.mem_mergeSort.mp (h.subset (by simp))
  have hne : a ≠ b := by simpa using hnodup'.sublist h
  -- If they had been the other way round, they would have stayed so.
  refine (pair_sublist_or ha hb hne).resolve_right fun hswap => ?_
  exact not_pair_sublist_of_nodup hnodup' h
    (List.pair_sublist_mergeSort htrans htotal hback hswap)

/-! ### Strict orders -/

/-- No element of a sorted list comes before one that stands before it. -/
theorem pairwise_not_mergeSort (hasymm : ∀ {a b}, isBefore a b = true → isBefore b a = false)
    (hbetween : ∀ {a c} b, isBefore a c = true → isBefore a b = true ∨ isBefore b c = true) :
    (as.mergeSort fun a b => !isBefore b a).Pairwise fun a b => isBefore b a = false := by
  have htrans : ∀ a b c : α, (!isBefore b a) = true → (!isBefore c b) = true →
      (!isBefore c a) = true := by
    intro a b c hab hbc
    simp only [Bool.not_eq_true', ← Bool.not_eq_true] at *
    intro hca
    -- Then the last element comes before the middle one or the middle one before the first.
    rcases hbetween b hca with hcb | hba
    · exact hbc hcb
    · exact hab hba
  have htotal : ∀ a b : α, ((!isBefore b a) || !isBefore a b) = true := by
    intro a b
    cases h : isBefore b a with
    | false => rfl
    | true => simp [hasymm h]
  exact (List.pairwise_mergeSort htrans htotal as).imp fun h => by simpa using h

/-- Elements that differ in what the order looks at are sorted into strict order. -/
theorem pairwise_mergeSort_of_nodup {key : α → β}
    (hasymm : ∀ {a b}, isBefore a b = true → isBefore b a = false)
    (hbetween : ∀ {a c} b, isBefore a c = true → isBefore a b = true ∨ isBefore b c = true)
    (hkey : ∀ {a b}, isBefore a b = false → isBefore b a = false → key a = key b)
    (hdistinct : (as.map key).Nodup) :
    (as.mergeSort fun a b => !isBefore b a).Pairwise fun a b => isBefore a b = true := by
  have hne : (as.mergeSort fun a b => !isBefore b a).Pairwise fun a b => key a ≠ key b :=
    List.pairwise_map.mp (((List.mergeSort_perm as _).map key).nodup_iff.mpr hdistinct)
  refine (hne.and (pairwise_not_mergeSort hasymm hbetween)).imp ?_
  rintro a b ⟨hne, hnot⟩
  by_contra h
  exact hne (hkey (Bool.eq_false_iff.mpr h) hnot)

end EnergyAudit
