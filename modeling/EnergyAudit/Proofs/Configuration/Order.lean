import EnergyAudit.Configuration.Check
import Mathlib.Data.List.Basic
import Mathlib.Data.List.Induction
import Mathlib.Data.List.Nodup

/-!
# Repeated slots

A configuration lists the slots in the order in which they are tried, and no slot may be listed
twice.  The check compares each slot with those before it.  What it finds is told here by a split of
the list: the slots before the one found are different, and it is one of them.

## Main definitions

* `IsFirstRepeated` — the first slot of an order that repeats one before it.
* `Configuration.PassesEarlierChecks` — nothing is wrong with what is checked before the order.

## Main results

* `nodup_or_exists_isFirstRepeated` — an order without such a slot has no slot twice.
* `firstRepeated?_eq_some_iff` — the search finds the first repeated slot.
* `Configuration.check_eq_repeatedSlot_iff` — when a configuration is refused for its order.
-/

namespace EnergyAudit

variable {order before slots rest : List Slot} {slot : Slot}

/-! ### The first repeated slot -/

/-- The first slot of an order that repeats one before it. -/
def IsFirstRepeated (order : List Slot) (slot : Slot) : Prop :=
  ∃ before after, order = before ++ slot :: after ∧ before.Nodup ∧ slot ∈ before

theorem IsFirstRepeated.not_nodup (h : IsFirstRepeated order slot) : ¬ order.Nodup := by
  obtain ⟨before, after, rfl, -, hslot⟩ := h
  intro hnodup
  exact List.disjoint_of_nodup_append hnodup hslot List.mem_cons_self

theorem nodup_or_exists_isFirstRepeated (order : List Slot) :
    order.Nodup ∨ ∃ slot, IsFirstRepeated order slot := by
  induction order using List.reverseRecOn with
  | nil => exact .inl List.nodup_nil
  | append_singleton order last ih =>
    rcases ih with hnodup | ⟨slot, before, after, rfl, hbefore, hslot⟩
    · by_cases hlast : last ∈ order
      · exact .inr ⟨last, order, [], rfl, hnodup, hlast⟩
      · exact .inl (List.concat_eq_append ▸ hnodup.concat hlast)
    · refine .inr ⟨slot, before, after ++ [last], ?_, hbefore, hslot⟩
      rw [List.append_assoc, List.cons_append]

/-! ### The search for it -/

/-- The search goes on behind slots that are all different. -/
theorem firstRepeated?_append (h : (before ++ slots).Nodup) :
    firstRepeated? before (slots ++ rest) = firstRepeated? (before ++ slots) rest := by
  induction slots generalizing before with
  | nil => rw [List.nil_append, List.append_nil]
  | cons slot slots ih =>
    rw [List.append_cons] at h ⊢
    have hslot : slot ∉ before := fun hmem =>
      List.disjoint_of_nodup_append h.of_append_left hmem List.mem_cons_self
    rw [List.cons_append, firstRepeated?, if_neg (by simpa using hslot), ih h]

theorem firstRepeated?_of_nodup (h : order.Nodup) : firstRepeated? [] order = none := by
  have hend : firstRepeated? [] (order ++ []) = firstRepeated? ([] ++ order) [] :=
    firstRepeated?_append h
  rwa [List.append_nil] at hend

theorem IsFirstRepeated.firstRepeated?_eq (h : IsFirstRepeated order slot) :
    firstRepeated? [] order = some slot := by
  obtain ⟨before, after, rfl, hbefore, hslot⟩ := h
  have hfound : firstRepeated? before (slot :: after) = some slot :=
    if_pos (List.contains_iff_mem.mpr hslot)
  have hskip : firstRepeated? [] (before ++ slot :: after) =
      firstRepeated? ([] ++ before) (slot :: after) := firstRepeated?_append hbefore
  exact hskip.trans hfound

theorem firstRepeated?_eq_some_iff :
    firstRepeated? [] order = some slot ↔ IsFirstRepeated order slot := by
  refine ⟨fun h => ?_, IsFirstRepeated.firstRepeated?_eq⟩
  rcases nodup_or_exists_isFirstRepeated order with hnodup | ⟨found, hfound⟩
  · rw [firstRepeated?_of_nodup hnodup] at h
    cases h
  · rw [hfound.firstRepeated?_eq] at h
    exact Option.some.inj h ▸ hfound

/-! ### The check of a configuration -/

/-- Nothing is wrong with what is checked before the order of the slots. -/
structure Configuration.PassesEarlierChecks (c : Configuration) : Prop where
  sourceBytes : c.analysis.maxSourceBytes ≠ 0
  rateFinite : c.analysis.electricityRate.isFinite = true
  rateNonnegative : ¬ c.analysis.electricityRate < 0.0
  timeout : c.suggestion.timeout ≠ 0

/-- What is wrong with a provider is not the order of the slots. -/
theorem ProviderSettings.fault?_ne_repeatedSlot (p : ProviderSettings) (place : Slot) :
    p.fault? place ≠ some (.repeatedSlot slot) := by
  unfold ProviderSettings.fault?
  split
  · simp
  · split
    · simp
    · split <;> simp

/-- A configuration is refused for its order at the first slot that repeats one before it. -/
theorem Configuration.check_eq_repeatedSlot_iff {c : Configuration} (hc : c.PassesEarlierChecks) :
    c.check = .error (.repeatedSlot slot) ↔ IsFirstRepeated c.suggestion.order slot := by
  have hfault : c.fault? = c.suggestion.fault? := by
    simp [Configuration.fault?, hc.sourceBytes, hc.rateFinite, hc.rateNonnegative]
  have hcheck : c.check = .error (.repeatedSlot slot) ↔
      c.suggestion.fault? = some (.repeatedSlot slot) := by
    rw [Configuration.check, hfault]
    cases c.suggestion.fault? <;> simp
  rw [hcheck, ← firstRepeated?_eq_some_iff, SuggestionSettings.fault?,
    if_neg (by simpa using hc.timeout)]
  cases hrepeated : firstRepeated? [] c.suggestion.order with
  | some found => simp
  | none =>
    simp only [reduceCtorEq, iff_false]
    intro hprovider
    obtain ⟨place, -, hplace⟩ := List.exists_of_findSome?_eq_some hprovider
    obtain ⟨p, -, hp⟩ := Option.bind_eq_some_iff.mp hplace
    exact p.fault?_ne_repeatedSlot place hp

end EnergyAudit
