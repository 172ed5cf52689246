import EnergyAudit.Proofs.Sorting
import EnergyAudit.Score.Ranking

/-!
# The order of the ranking

The ranking holds every function just once for each time it is listed.  A function that scores more
goes first; of those with equal scores the one that starts on an earlier line, and of those that
start on one line the one that is listed first.

## Main definitions

* `FunctionRecord.ComesEarlier` — the order of functions in their source.

## Main results

* `recordsByRank_perm` — nothing is lost and nothing is added.
* `pairwise_recordsByRank` — every function may go before those behind it.
* `sublist_recordsByRank` — functions that may go either way stay as they are listed.
* `comesEarlier_of_sublist_recordsByRank` — functions with equal scores are in the order of the
  source.
* `getElem?_rankRecords`, `rankRecords_eq_mapIdx` — the scores come from the order of the ranking.
-/

namespace EnergyAudit

namespace FunctionRecord

variable {a b c : FunctionRecord} {records : List FunctionRecord}

theorem goesBefore_iff :
    a.goesBefore b = true ↔
      b.score < a.score ∨ (a.score = b.score ∧ a.startLine ≤ b.startLine) := by
  simp [goesBefore]

theorem goesBefore_trans (hab : a.goesBefore b = true) (hbc : b.goesBefore c = true) :
    a.goesBefore c = true := by
  rw [goesBefore_iff] at hab hbc ⊢
  rcases hab with hab | ⟨hab, hline⟩
  · left
    rcases hbc with hbc | ⟨hbc, -⟩
    · exact UInt64.lt_trans hbc hab
    · rwa [← hbc]
  · rw [hab]
    rcases hbc with hbc | ⟨hbc, hline'⟩
    · exact .inl hbc
    · exact .inr ⟨hbc, Nat.le_trans hline hline'⟩

theorem goesBefore_total (a b : FunctionRecord) : (a.goesBefore b || b.goesBefore a) = true := by
  rw [Bool.or_eq_true, goesBefore_iff, goesBefore_iff]
  by_cases h : a.score = b.score
  · rcases Nat.le_total a.startLine b.startLine with hline | hline
    · exact .inl (.inr ⟨h, hline⟩)
    · exact .inr (.inr ⟨h.symm, hline⟩)
  · rcases UInt64.lt_or_lt_of_ne h with hlt | hlt
    · exact .inr (.inl hlt)
    · exact .inl (.inl hlt)

theorem score_le_of_goesBefore (h : a.goesBefore b = true) : b.score ≤ a.score := by
  rcases goesBefore_iff.mp h with h | ⟨h, -⟩
  · exact UInt64.le_of_lt h
  · rw [h]
    exact UInt64.le_refl _

/-- Of two listed functions one comes earlier in the source if it starts on an earlier line, or if
it starts on the same line and is listed before the other. -/
def ComesEarlier (records : List FunctionRecord) (a b : FunctionRecord) : Prop :=
  a.startLine < b.startLine ∨ (a.startLine = b.startLine ∧ [a, b].Sublist records)

end FunctionRecord

open FunctionRecord

variable {records : List FunctionRecord}

theorem recordsByRank_perm (records : List FunctionRecord) :
    (recordsByRank records).Perm records :=
  List.mergeSort_perm records goesBefore

/-- Every function may go before those behind it. -/
theorem pairwise_recordsByRank (records : List FunctionRecord) :
    (recordsByRank records).Pairwise fun a b => a.goesBefore b = true :=
  @List.pairwise_mergeSort _ goesBefore (fun _ _ _ => goesBefore_trans) goesBefore_total records

/-- A function that may go before one that is listed behind it does so. -/
theorem sublist_recordsByRank {a b : FunctionRecord} (hab : a.goesBefore b = true)
    (h : [a, b].Sublist records) : [a, b].Sublist (recordsByRank records) :=
  List.pair_sublist_mergeSort (fun _ _ _ => goesBefore_trans) goesBefore_total hab h

theorem nodup_recordsByRank (h : records.Nodup) : (recordsByRank records).Nodup :=
  (recordsByRank_perm records).nodup_iff.mpr h

/-- Functions with equal scores stand in the ranking as they do in the source. -/
theorem comesEarlier_of_sublist_recordsByRank (hnodup : records.Nodup) {a b : FunctionRecord}
    (h : [a, b].Sublist (recordsByRank records)) (hscore : a.score = b.score) :
    ComesEarlier records a b := by
  have hstable := pairwise_mergeSort_stable goesBefore (fun _ _ _ => goesBefore_trans)
    goesBefore_total hnodup
  obtain ⟨hbefore, htie⟩ := List.rel_of_pairwise_cons (hstable.sublist h) List.mem_cons_self
  rcases goesBefore_iff.mp hbefore with hlt | ⟨-, hline⟩
  · rw [hscore] at hlt
    exact absurd hlt (UInt64.lt_irrefl _)
  · rcases Nat.lt_or_eq_of_le hline with hline | hline
    · exact .inl hline
    · exact .inr ⟨hline, htie (goesBefore_iff.mpr (.inr ⟨hscore.symm, Nat.le_of_eq hline.symm⟩))⟩

/-! ### Scores -/

/-- The score in some place of the ranking is that of the function in this place. -/
theorem getElem?_rankRecords (records : List FunctionRecord) (place : Nat) :
    (rankRecords records)[place]? =
      (recordsByRank records)[place]?.map fun r => r.hotspotScore (place + 1) :=
  List.getElem?_mapIdx

/-- The scores come from the order in which the listed functions are ranked. -/
theorem rankRecords_eq_mapIdx {listing : List (FunctionRecord × Nat)}
    (h : recordsByRank records = listing.map Prod.fst) :
    rankRecords records = listing.mapIdx fun place a => a.1.hotspotScore (place + 1) := by
  refine List.ext_getElem? fun place => ?_
  rw [getElem?_rankRecords, h, List.getElem?_map, List.getElem?_mapIdx, Option.map_map]
  rfl

end EnergyAudit
