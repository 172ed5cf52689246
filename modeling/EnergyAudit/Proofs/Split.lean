import Mathlib.Data.List.Basic

/-!
# Lists split at an element

A list that has an element at some place splits there into what comes before and what comes after.

## Main results

* `append_eq_append_cons` — the place is in the first or in the second of two lists.
* `flatMap_eq_append_cons` — the place is in one of many lists.
-/

namespace EnergyAudit

/-- Something that happens in two stretches happens in the first or in the second. -/
theorem append_eq_append_cons {α : Type} {hs gs before rest : List α} {x : α}
    (h : hs ++ gs = before ++ x :: rest) :
    (∃ others, hs = before ++ x :: others ∧ rest = others ++ gs) ∨
      ∃ others, before = hs ++ others ∧ gs = others ++ x :: rest := by
  rcases List.append_eq_append_iff.mp h with ⟨others, hbefore, hgs⟩ | ⟨others, hhs, hrest⟩
  · exact .inr ⟨others, hbefore, hgs⟩
  · cases others with
    | nil =>
      rw [List.append_nil] at hhs
      exact .inr ⟨[], by rw [List.append_nil, hhs], hrest.symm⟩
    | cons y others =>
      obtain ⟨rfl, htail⟩ := List.cons.inj hrest
      exact .inl ⟨others, hhs, htail⟩

/-- Something that comes from one of many things has what comes from the former ones before it. -/
theorem flatMap_eq_append_cons {α β : Type} {f : α → List β} {as : List α} {rest : List β} {b : β} :
    ∀ {before : List β}, as.flatMap f = before ++ b :: rest →
      ∃ former a later here others, as = former ++ a :: later ∧ f a = here ++ b :: others ∧
        before = former.flatMap f ++ here ∧ rest = others ++ later.flatMap f := by
  induction as with
  | nil =>
    intro before h
    simp at h
  | cons a as ih =>
    intro before h
    rw [List.flatMap_cons] at h
    rcases append_eq_append_cons h with ⟨others, ha, hrest⟩ | ⟨others, hbefore, has⟩
    · exact ⟨[], a, as, before, others, rfl, ha, rfl, hrest⟩
    · obtain ⟨former, c, later, here, others', has', hc, hothers, hrest⟩ := ih has
      refine ⟨a :: former, c, later, here, others', ?_, hc, ?_, hrest⟩
      · rw [has', List.cons_append]
      · rw [hbefore, hothers, List.flatMap_cons, List.append_assoc]

end EnergyAudit
