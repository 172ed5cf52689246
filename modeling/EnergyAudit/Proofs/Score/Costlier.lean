import EnergyAudit.Proofs.Score.Places
import EnergyAudit.Proofs.Score.Total

/-!
# Costlier functions

A function that has at least as much of everything that costs as another one, and more of something,
scores more, unless the other one has the largest score already.  So it goes first in every ranking
that holds both, wherever they are listed and on whichever lines they start.

## Main definitions

* `FunctionRecord.IsCostlier` — one function has more that costs than another one.

## Main results

* `FunctionRecord.IsCostlier.uncappedScore_lt` — the formula grows with each of its arguments.
* `FunctionRecord.IsCostlier.score_lt_score` — so does the score, up to the largest number.
* `rank_lt_of_score_lt` — what scores more has the smaller rank.
* `costlier_outranks` — a costlier function goes first in every ranking.
-/

namespace EnergyAudit

namespace FunctionRecord

/-- A function has loops nested at least as deep as another one, and at least as many growing
collections and calls; it calls itself if the other one does; and it has more of one of these. -/
structure IsCostlier (a b : FunctionRecord) : Prop where
  loops : b.loopDepth ≤ a.loopDepth
  growth : b.growthOps ≤ a.growthOps
  calls : b.callFanout ≤ a.callFanout
  recursion : b.hasRecursion = true → a.hasRecursion = true
  more : b.loopDepth < a.loopDepth ∨ b.growthOps < a.growthOps ∨ b.callFanout < a.callFanout ∨
    (b.hasRecursion = false ∧ a.hasRecursion = true)

variable {a b : FunctionRecord}

theorem loopProduct_lt_of_loopDepth_lt (hloops : b.loopDepth < a.loopDepth)
    (hgrowth : b.growthOps ≤ a.growthOps) : b.loopProduct < a.loopProduct := by
  rw [UInt32.lt_iff_toNat_lt] at hloops
  rw [UInt32.le_iff_toNat_le] at hgrowth
  have hpower : 2 ^ b.loopDepth.toNat < 2 ^ a.loopDepth.toNat :=
    Nat.pow_lt_pow_right (by decide) hloops
  exact Nat.mul_lt_mul_of_lt_of_le hpower (by omega) (by omega)

theorem loopProduct_lt_of_growthOps_lt (hloops : b.loopDepth ≤ a.loopDepth)
    (hgrowth : b.growthOps < a.growthOps) : b.loopProduct < a.loopProduct := by
  rw [UInt32.le_iff_toNat_le] at hloops
  rw [UInt32.lt_iff_toNat_lt] at hgrowth
  have hpower : 2 ^ b.loopDepth.toNat ≤ 2 ^ a.loopDepth.toNat :=
    Nat.pow_le_pow_right (by decide) hloops
  exact Nat.mul_lt_mul_of_le_of_lt hpower (by omega) (Nat.two_pow_pos _)

theorem recursionPart_lt (hb : b.hasRecursion = false) (ha : a.hasRecursion = true) :
    b.recursionPart < a.recursionPart := by
  rw [recursionPart, recursionPart, hb, ha]
  decide

namespace IsCostlier

variable (h : a.IsCostlier b)
include h

/-- The formula grows with each of its arguments. -/
theorem uncappedScore_lt : b.uncappedScore < a.uncappedScore := by
  have hproduct := loopProduct_le h.loops h.growth
  have hpart := recursionPart_le h.recursion
  have hcalls := UInt32.le_iff_toNat_le.mp h.calls
  rw [uncappedScore_eq, uncappedScore_eq]
  rcases h.more with hloops | hgrowth | hmore | ⟨hb, ha⟩
  · have hlt := loopProduct_lt_of_loopDepth_lt hloops h.growth
    omega
  · have hlt := loopProduct_lt_of_growthOps_lt h.loops hgrowth
    omega
  · rw [UInt32.lt_iff_toNat_lt] at hmore
    omega
  · have hlt := recursionPart_lt hb ha
    omega

theorem score_le_score : b.score ≤ a.score :=
  FunctionRecord.score_le_score h.loops h.growth h.calls h.recursion

/-- A costlier function scores more, unless the other one has the largest score already. -/
theorem score_lt_score (hcap : b.score < maxScore) : b.score < a.score := by
  have hlt := h.uncappedScore_lt
  rw [UInt64.lt_iff_toNat_lt, toNat_score] at hcap ⊢
  rw [toNat_maxScore] at hcap
  rw [toNat_score]
  omega

end IsCostlier

end FunctionRecord

/-! ### Ranks -/

variable {records : List FunctionRecord}

/-- Every listed function has a rank. -/
theorem exists_hotspotScore_mem {r : FunctionRecord} (hr : r ∈ records) :
    ∃ rank, r.hotspotScore rank ∈ rankRecords records := by
  obtain ⟨place, hplace⟩ := List.getElem?_of_mem ((recordsByRank_perm records).mem_iff.mpr hr)
  refine ⟨place + 1, List.mem_of_getElem? (i := place) ?_⟩
  rw [getElem?_rankRecords, hplace, Option.map_some]

/-- What scores more has the smaller rank. -/
theorem rank_lt_of_score_lt {x y : HotspotScore} (hx : x ∈ rankRecords records)
    (hy : y ∈ rankRecords records) (hlt : y.score < x.score) : x.rank < y.rank := by
  rw [rankRecords_eq_mapIdx (map_fst_listingByRank records).symm] at hx hy
  obtain ⟨k, hk, rfl⟩ := List.mem_mapIdx.mp hx
  obtain ⟨l, hl, rfl⟩ := List.mem_mapIdx.mp hy
  have horder := lt_iff_of_pairwise Outranks.not_symm (pairwise_listingByRank records)
    (List.getElem?_eq_getElem hk) (List.getElem?_eq_getElem hl)
  exact Nat.succ_lt_succ (horder.mpr (.inl hlt))

/-- **A costlier function goes first in every ranking.**  It scores at least as much as the other
one, and more unless the other one has the largest score.  Then of all entries of a ranking those of
the costlier function have smaller ranks, wherever the two are listed and whichever lines they start
on. -/
theorem costlier_outranks {records : List FunctionRecord} {a b : FunctionRecord}
    (ha : a ∈ records) (hb : b ∈ records) (h : a.IsCostlier b) :
    (ScoreBreakdown.ofRecord b).total ≤ (ScoreBreakdown.ofRecord a).total ∧
      ((ScoreBreakdown.ofRecord b).total.toNat < 2 ^ 64 - 1 →
        (ScoreBreakdown.ofRecord b).total < (ScoreBreakdown.ofRecord a).total ∧
          (∃ rank, a.hotspotScore rank ∈ rankRecords records) ∧
          (∃ rank, b.hotspotScore rank ∈ rankRecords records) ∧
          ∀ rank rank', a.hotspotScore rank ∈ rankRecords records →
            b.hotspotScore rank' ∈ rankRecords records → rank < rank') := by
  refine ⟨h.score_le_score, fun hcap => ?_⟩
  have hlt : b.score < a.score := h.score_lt_score (UInt64.lt_iff_toNat_lt.mpr hcap)
  refine ⟨hlt, exists_hotspotScore_mem ha, exists_hotspotScore_mem hb, ?_⟩
  intro rank rank' hrank hrank'
  exact rank_lt_of_score_lt hrank hrank' hlt

/-- A function with loops nested so deep that two to their depth just fits. -/
def FunctionRecord.nested63 : FunctionRecord :=
  { (default : FunctionRecord) with
    id := ⟨"nested63@1"⟩, span := ⟨0, 29, 1, 1, 2, 9⟩, loopDepth := 63, callFanout := 7 }

/-- A function like it with one more loop, further down in the source. -/
def FunctionRecord.nested64 : FunctionRecord :=
  { FunctionRecord.nested63 with
    id := ⟨"nested64@4"⟩, span := ⟨30, 79, 4, 1, 7, 9⟩, loopDepth := 64 }

/-- The function with one more loop goes first, though it is listed behind the other one, starts
further down and is capped. -/
theorem costlier_outranks_nested :
    let records : List FunctionRecord := [.nested63, .nested64]
    FunctionRecord.nested64.IsCostlier .nested63 ∧
      (ScoreBreakdown.ofRecord .nested63).total.toNat < 2 ^ 64 - 1 ∧
      ∃ rank rank', FunctionRecord.nested64.hotspotScore rank ∈ rankRecords records ∧
        FunctionRecord.nested63.hotspotScore rank' ∈ rankRecords records ∧ rank < rank' := by
  intro records
  have hcostlier : FunctionRecord.nested64.IsCostlier .nested63 :=
    ⟨by decide, by decide, by decide, id, .inl (by decide)⟩
  have hcap : (ScoreBreakdown.ofRecord .nested63).total.toNat < 2 ^ 64 - 1 := by decide +kernel
  have h64 : .nested64 ∈ records := List.mem_cons_of_mem _ List.mem_cons_self
  have h63 : .nested63 ∈ records := List.mem_cons_self
  obtain ⟨-, hranks⟩ := costlier_outranks h64 h63 hcostlier
  obtain ⟨-, ⟨rank, hrank⟩, ⟨rank', hrank'⟩, hlt⟩ := hranks hcap
  exact ⟨hcostlier, hcap, rank, rank', hrank, hrank', hlt rank rank' hrank hrank'⟩

end EnergyAudit
