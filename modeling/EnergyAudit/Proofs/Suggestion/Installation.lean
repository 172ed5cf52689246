import EnergyAudit.Proofs.Split
import EnergyAudit.Suggestion.Orchestrator
import Mathlib.Data.List.Basic
import Mathlib.Data.List.Induction
import Mathlib.Data.List.Nodup

/-!
# Providers in their slots

Providers are put in the slots of an orchestrator one after the other.  A slot that is filled for
the first time comes behind those that are filled already, and a provider for a filled slot takes
the place of the one that is there.  So the slots stay in the order in which they were first filled,
while each holds the provider that was put in it last.

## Main definitions

* `Orchestrator.ofInstallations` — the orchestrator in which providers have been put.
* `firstFilled` — when a slot was first filled.
* `IsLastInSlot` — no other provider was put in the slot of this one after it.
* `Orchestrator.IsFilledBy` — an orchestrator holds what has been put in it.

## Main results

* `mem_installIn` — what is held when one more provider has been put in its slot.
* `Orchestrator.IsFilledBy.install` — an orchestrator keeps what has been put in it.
* `Orchestrator.nodup_slots` — no two providers stand in one slot.
* `Orchestrator.slots_keep_order` — **the slots of an orchestrator and the providers in them.**
-/

namespace EnergyAudit

variable {π : Type} {i j : Installation π} {is : List (Installation π)} {slot : Slot}

/-! ### One more provider -/

/-- A provider for a slot that is free comes last. -/
theorem installIn_of_not_mem (h : i.slot ∉ is.map (·.slot)) : installIn i is = is ++ [i] := by
  induction is with
  | nil => rfl
  | cons j is ih =>
    rw [List.map_cons, List.mem_cons, not_or] at h
    rw [installIn, if_neg (by simpa using Ne.symm h.1), ih h.2, List.cons_append]

/-- A provider for a slot that is filled takes the place of the one that is there. -/
theorem slots_installIn_of_mem (h : i.slot ∈ is.map (·.slot)) :
    (installIn i is).map (·.slot) = is.map (·.slot) := by
  induction is with
  | nil => cases h
  | cons j is ih =>
    unfold installIn
    by_cases hslot : j.slot = i.slot
    · simp [hslot]
    · have hmem : i.slot ∈ is.map (·.slot) :=
        (List.mem_cons.mp h).resolve_left fun heq => hslot heq.symm
      rw [if_neg (by simpa using hslot), List.map_cons, ih hmem, List.map_cons]

/-- What is held when one more provider has been put in its slot: that provider, and what the other
slots held before. -/
theorem mem_installIn (h : (is.map (·.slot)).Nodup) :
    j ∈ installIn i is ↔ j = i ∨ j ∈ is ∧ j.slot ≠ i.slot := by
  induction is with
  | nil => simp [installIn]
  | cons k is ih =>
    obtain ⟨hk, hnodup⟩ := List.nodup_cons.mp h
    unfold installIn
    by_cases hslot : k.slot = i.slot
    · -- The provider takes the place of the first one, whose slot no other one has.
      have hothers : j ∈ is → j.slot ≠ i.slot := fun hj heq =>
        hk (List.mem_map.mpr ⟨j, hj, heq.trans hslot.symm⟩)
      rw [if_pos (by simpa using hslot), List.mem_cons, List.mem_cons]
      constructor
      · rintro (rfl | hj)
        · exact .inl rfl
        · exact .inr ⟨.inr hj, hothers hj⟩
      · rintro (rfl | ⟨rfl | hj, hne⟩)
        · exact .inl rfl
        · exact absurd hslot hne
        · exact .inr hj
    · rw [if_neg (by simpa using hslot), List.mem_cons, List.mem_cons, ih hnodup]
      constructor
      · rintro (rfl | rfl | ⟨hj, hne⟩)
        · exact .inr ⟨.inl rfl, hslot⟩
        · exact .inl rfl
        · exact .inr ⟨.inr hj, hne⟩
      · rintro (rfl | ⟨rfl | hj, hne⟩)
        · exact .inr (.inl rfl)
        · exact .inl rfl
        · exact .inr (.inr ⟨hj, hne⟩)

/-! ### The providers that have been put in slots -/

/-- At which place in a list of providers a slot was first filled. -/
def firstFilled (is : List (Installation π)) (slot : Slot) : Nat := (is.map (·.slot)).idxOf slot

theorem firstFilled_append_of_mem (h : slot ∈ is.map (·.slot)) :
    firstFilled (is ++ [i]) slot = firstFilled is slot := by
  rw [firstFilled, List.map_append, List.idxOf_append_of_mem h, firstFilled]

/-- A slot that has not been filled before is filled later than those that have. -/
theorem firstFilled_lt_of_not_mem (h : slot ∈ is.map (·.slot)) (hi : i.slot ∉ is.map (·.slot)) :
    firstFilled (is ++ [i]) slot < firstFilled (is ++ [i]) i.slot := by
  have hslot : firstFilled is slot < (is.map (·.slot)).length := List.idxOf_lt_length_of_mem h
  rw [firstFilled_append_of_mem h]
  refine Nat.lt_of_lt_of_le hslot ?_
  rw [firstFilled, List.map_append, List.idxOf_append_of_notMem hi]
  exact Nat.le_add_right _ _

/-- A provider has been put in its slot, and no other one after it. -/
def IsLastInSlot (is : List (Installation π)) (i : Installation π) : Prop :=
  ∃ before after, is = before ++ i :: after ∧ ∀ j ∈ after, j.slot ≠ i.slot

theorem isLastInSlot_append_singleton :
    IsLastInSlot (is ++ [i]) j ↔ j = i ∨ IsLastInSlot is j ∧ j.slot ≠ i.slot := by
  constructor
  · rintro ⟨before, after, hsplit, hafter⟩
    rcases append_eq_append_cons hsplit with ⟨others, his, rfl⟩ | ⟨others, -, hi⟩
    · refine .inr ⟨⟨before, others, his, fun k hk => hafter k (List.mem_append_left _ hk)⟩, ?_⟩
      exact (hafter i (List.mem_append_right _ (List.mem_singleton_self i))).symm
    · have hj : j ∈ [i] := hi ▸ List.mem_append_right _ List.mem_cons_self
      exact .inl (List.mem_singleton.mp hj)
  · rintro (rfl | ⟨⟨before, after, rfl, hafter⟩, hne⟩)
    · exact ⟨is, [], rfl, fun k hk => absurd hk List.not_mem_nil⟩
    · refine ⟨before, after ++ [i], by rw [List.append_assoc, List.cons_append], fun k hk => ?_⟩
      rcases List.mem_append.mp hk with hk | hk
      · exact hafter k hk
      · exact List.mem_singleton.mp hk ▸ hne.symm

/-! ### The slots of an orchestrator -/

namespace Orchestrator

variable {o : Orchestrator π}

theorem slots_install_of_mem (h : i.slot ∈ o.slots) : (o.install i).slots = o.slots :=
  slots_installIn_of_mem h

theorem slots_install_of_not_mem (h : i.slot ∉ o.slots) :
    (o.install i).slots = o.slots ++ [i.slot] := by
  rw [slots, install, installIn_of_not_mem h, List.map_append, List.map_singleton, slots]

theorem mem_slots_install : slot ∈ (o.install i).slots ↔ slot ∈ o.slots ∨ slot = i.slot := by
  by_cases hi : i.slot ∈ o.slots
  · rw [slots_install_of_mem hi]
    exact ⟨.inl, fun h => h.elim id fun heq => heq ▸ hi⟩
  · rw [slots_install_of_not_mem hi, List.mem_append, List.mem_singleton]

/-- An orchestrator holds the providers that have been put in it, one after the other. -/
structure IsFilledBy (o : Orchestrator π) (is : List (Installation π)) : Prop where
  mem_slots : ∀ slot, slot ∈ o.slots ↔ slot ∈ is.map (·.slot)
  /-- The slots are in the order in which they were first filled. -/
  ordered : o.slots.Pairwise fun a b => firstFilled is a < firstFilled is b
  /-- Each slot holds what was last put in it. -/
  mem_installations : ∀ i, i ∈ o.installations ↔ IsLastInSlot is i

theorem IsFilledBy.nodup (h : o.IsFilledBy is) : o.slots.Nodup := by
  refine h.ordered.imp ?_
  rintro a b hlt rfl
  exact Nat.lt_irrefl _ hlt

theorem isFilledBy_empty (timeout : Nat) : (empty timeout : Orchestrator π).IsFilledBy [] where
  mem_slots _ := Iff.rfl
  ordered := List.Pairwise.nil
  mem_installations i := by simp [empty, IsLastInSlot]

/-- An orchestrator keeps what has been put in it when one more provider is put in its slot. -/
theorem IsFilledBy.install (h : o.IsFilledBy is) (i : Installation π) :
    (o.install i).IsFilledBy (is ++ [i]) where
  mem_slots slot := by
    rw [mem_slots_install, h.mem_slots, List.map_append, List.mem_append, List.map_singleton,
      List.mem_singleton]
  ordered := by
    -- The slots that were filled before keep their order.
    have hbefore : o.slots.Pairwise fun a b =>
        firstFilled (is ++ [i]) a < firstFilled (is ++ [i]) b := by
      refine h.ordered.imp_of_mem fun ha hb hlt => ?_
      rwa [firstFilled_append_of_mem ((h.mem_slots _).mp ha),
        firstFilled_append_of_mem ((h.mem_slots _).mp hb)]
    by_cases hi : i.slot ∈ o.slots
    · rwa [slots_install_of_mem hi]
    · rw [slots_install_of_not_mem hi]
      refine List.pairwise_append.mpr ⟨hbefore, List.pairwise_singleton _ _, fun a ha b hb => ?_⟩
      rw [List.mem_singleton.mp hb]
      rw [h.mem_slots] at ha hi
      exact firstFilled_lt_of_not_mem ha hi
  mem_installations j := by
    rw [isLastInSlot_append_singleton, ← h.mem_installations]
    exact mem_installIn h.nodup

/-- The orchestrator in which providers have been put one after the other. -/
def ofInstallations (timeout : Nat) (is : List (Installation π)) : Orchestrator π :=
  is.foldl Orchestrator.install (.empty timeout)

theorem isFilledBy_ofInstallations (timeout : Nat) (is : List (Installation π)) :
    (ofInstallations timeout is).IsFilledBy is := by
  induction is using List.reverseRecOn with
  | nil => exact isFilledBy_empty timeout
  | append_singleton is i ih =>
    rw [ofInstallations, List.foldl_append]
    exact ih.install i

/-- No two providers stand in one slot. -/
theorem nodup_slots (timeout : Nat) (is : List (Installation π)) :
    (ofInstallations timeout is).slots.Nodup :=
  (isFilledBy_ofInstallations timeout is).nodup

/-- **The slots of an orchestrator and the providers in them.**  Whatever providers have been put in
it one after the other, no slot is there twice, the slots that have been filled are those that are
there, in the order in which they were first filled, and each holds the provider that was last put
in it.  One more provider for a slot that is filled changes neither the order of the slots nor what
the other ones hold. -/
theorem slots_keep_order (timeout : Nat) (is : List (Installation π)) :
    let o := ofInstallations timeout is
    o.slots.Nodup ∧
      (∀ slot, slot ∈ o.slots ↔ ∃ i ∈ is, i.slot = slot) ∧
      (o.slots.Pairwise fun a b => firstFilled is a < firstFilled is b) ∧
      (∀ i, i ∈ o.installations ↔ IsLastInSlot is i) ∧
      ∀ i, i.slot ∈ o.slots →
        (o.install i).slots = o.slots ∧
          ∀ j, j ∈ (o.install i).installations ↔ j = i ∨ j ∈ o.installations ∧ j.slot ≠ i.slot := by
  intro o
  have hfilled : o.IsFilledBy is := isFilledBy_ofInstallations timeout is
  refine ⟨hfilled.nodup, fun slot => ?_, hfilled.ordered, hfilled.mem_installations, fun i hi => ?_⟩
  · rw [hfilled.mem_slots, List.mem_map]
  · exact ⟨slots_install_of_mem hi, fun j => mem_installIn hfilled.nodup⟩

/-- The second provider for a slot takes the place of the first one. -/
example :
    ofInstallations 1000 [⟨.secondary, "a", ()⟩, ⟨.primary, "b", ()⟩, ⟨.secondary, "c", ()⟩] =
      ⟨[⟨.secondary, "c", ()⟩, ⟨.primary, "b", ()⟩], 1000⟩ := rfl

end Orchestrator

end EnergyAudit
