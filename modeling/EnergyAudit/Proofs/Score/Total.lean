import EnergyAudit.Score.Ranking
import Mathlib.Algebra.Group.Nat.Defs

/-!
# The score as a number

The arithmetic of scores stops at the largest number at every step.  It comes to the same as the
formula without bounds, cut once at the end; so more loops, growth, calls or recursion never lower a
score.

## Main results

* `FunctionRecord.toNat_score` — the score is the capped formula.
* `ScoreBreakdown.total_ofRecord` — so is the sum of the parts, and only one part may be capped.
* `FunctionRecord.score_le_score` — the score of a function that has at least as much of everything.
-/

namespace EnergyAudit

/-- The largest score as a number. -/
def scoreCap : Nat := 18446744073709551615

theorem toNat_maxScore : maxScore.toNat = scoreCap := rfl

theorem lt_size_iff {n : Nat} : n < UInt64.size ↔ n ≤ scoreCap := Nat.lt_succ_iff

theorem toNat_mulCapped (a b : UInt64) :
    (mulCapped a b).toNat = min (a.toNat * b.toNat) scoreCap := by
  unfold mulCapped
  split
  · next h =>
    rw [UInt64.toNat_mul, Nat.mod_eq_of_lt h, Nat.min_eq_left (lt_size_iff.mp h)]
  · next h =>
    rw [lt_size_iff] at h
    rw [toNat_maxScore, Nat.min_eq_right (by omega)]

theorem toNat_addCapped (a b : UInt64) :
    (addCapped a b).toNat = min (a.toNat + b.toNat) scoreCap := by
  unfold addCapped
  split
  · next h =>
    rw [UInt64.toNat_add, Nat.mod_eq_of_lt h, Nat.min_eq_left (lt_size_iff.mp h)]
  · next h =>
    rw [lt_size_iff] at h
    rw [toNat_maxScore, Nat.min_eq_right (by omega)]

theorem toNat_powerOfTwoCapped (exponent : UInt32) :
    (powerOfTwoCapped exponent).toNat = min (2 ^ exponent.toNat) scoreCap := by
  unfold powerOfTwoCapped
  split
  · next h =>
    have hlt : exponent.toNat < 64 := UInt32.lt_iff_toNat_lt.mp h
    have hpow : 2 ^ exponent.toNat < UInt64.size := Nat.pow_lt_pow_right (by omega) hlt
    rw [UInt64.toNat_shiftLeft, UInt32.toNat_toUInt64, Nat.mod_eq_of_lt hlt, UInt64.toNat_one,
      Nat.one_shiftLeft, Nat.mod_eq_of_lt hpow, Nat.min_eq_left (lt_size_iff.mp hpow)]
  · next h =>
    have hle : 64 ≤ exponent.toNat := by
      rw [UInt32.lt_iff_toNat_lt] at h
      exact Nat.le_of_not_lt h
    have hpow : 2 ^ 64 ≤ 2 ^ exponent.toNat := Nat.pow_le_pow_right (by omega) hle
    have hcap : scoreCap ≤ 2 ^ exponent.toNat := Nat.le_trans (Nat.le_succ scoreCap) hpow
    rw [toNat_maxScore, Nat.min_eq_right hcap]

/-- To cap a factor before the product makes no difference if the other one is at least one. -/
theorem min_min_mul {factor other cap : Nat} (hother : 1 ≤ other) :
    min (min factor cap * other) cap = min (factor * other) cap := by
  rcases Nat.le_total factor cap with h | h
  · rw [Nat.min_eq_left h]
  · have hcap : cap ≤ cap * other := Nat.le_mul_of_pos_right _ hother
    have hle : cap * other ≤ factor * other := Nat.mul_le_mul_right other h
    rw [Nat.min_eq_right h, Nat.min_eq_right hcap, Nat.min_eq_right (Nat.le_trans hcap hle)]

/-! ### The parts of a score -/

namespace ScoreBreakdown

variable (r : FunctionRecord)

theorem toNat_loopFactor :
    (ofRecord r).loopFactor.toNat = min (2 ^ r.loopDepth.toNat) scoreCap :=
  toNat_powerOfTwoCapped r.loopDepth

theorem toNat_growthFactor : (ofRecord r).growthFactor.toNat = 1 + r.growthOps.toNat := by
  have hlt := r.growthOps.toNat_lt
  rw [ofRecord, UInt64.toNat_add, UInt64.toNat_one, UInt32.toNat_toUInt64]
  omega

theorem toNat_recursionBonus :
    (ofRecord r).recursionBonus.toNat = if r.hasRecursion then 20 else 0 := by
  rw [ofRecord]
  split <;> rfl

theorem toNat_fanoutCost : (ofRecord r).fanoutCost.toNat = r.callFanout.toNat := by
  have hlt := r.callFanout.toNat_lt
  have hpoints : callPoints.toNat = 1 := rfl
  rw [ofRecord, toNat_mulCapped, UInt32.toNat_toUInt64, hpoints, Nat.mul_one, scoreCap]
  omega

end ScoreBreakdown

/-! ### The score of a function -/

namespace FunctionRecord

/-- The score of a function by the formula, however large. -/
def uncappedScore (r : FunctionRecord) : Nat :=
  2 ^ r.loopDepth.toNat * (1 + r.growthOps.toNat) + (if r.hasRecursion then 20 else 0) +
    r.callFanout.toNat

/-- The score is what the formula gives, up to the largest number. -/
theorem toNat_score (r : FunctionRecord) : r.score.toNat = min r.uncappedScore scoreCap := by
  rw [score, ScoreBreakdown.total, toNat_addCapped, toNat_addCapped, toNat_mulCapped,
    ScoreBreakdown.toNat_loopFactor, ScoreBreakdown.toNat_growthFactor,
    ScoreBreakdown.toNat_recursionBonus, ScoreBreakdown.toNat_fanoutCost,
    min_min_mul (Nat.le_add_right 1 _), uncappedScore]
  omega

theorem one_le_uncappedScore (r : FunctionRecord) : 1 ≤ r.uncappedScore := by
  have hproduct : 1 ≤ 2 ^ r.loopDepth.toNat * (1 + r.growthOps.toNat) :=
    Nat.mul_pos (Nat.two_pow_pos _) (by omega)
  unfold uncappedScore
  omega

end FunctionRecord

/-- **The parts of a score add up to the formula, capped once at the end.**  Of the parts only the
factor for the loops may itself be capped; the others are exact.  No score is below the baseline. -/
theorem ScoreBreakdown.total_ofRecord (r : FunctionRecord) :
    (ofRecord r).total.toNat = min (2 ^ 64 - 1)
        (2 ^ r.loopDepth.toNat * (1 + r.growthOps.toNat) + (if r.hasRecursion then 20 else 0) +
          r.callFanout.toNat) ∧
      (ofRecord r).loopFactor.toNat = min (2 ^ 64 - 1) (2 ^ r.loopDepth.toNat) ∧
      (ofRecord r).growthFactor.toNat = 1 + r.growthOps.toNat ∧
      (ofRecord r).recursionBonus.toNat = (if r.hasRecursion then 20 else 0) ∧
      (ofRecord r).fanoutCost.toNat = r.callFanout.toNat ∧
      baselineScore ≤ (ofRecord r).total := by
  have hcap : scoreCap = 2 ^ 64 - 1 := rfl
  have htotal : (ofRecord r).total.toNat = min r.uncappedScore scoreCap := r.toNat_score
  have hone := r.one_le_uncappedScore
  have hbaseline : baselineScore.toNat = 1 := rfl
  refine ⟨?_, ?_, toNat_growthFactor r, toNat_recursionBonus r, toNat_fanoutCost r, ?_⟩
  · rw [htotal, Nat.min_comm, hcap, FunctionRecord.uncappedScore]
  · rw [toNat_loopFactor, Nat.min_comm, hcap]
  · rw [UInt64.le_iff_toNat_le, htotal, hbaseline, hcap]
    omega

namespace FunctionRecord

/-- The product of the formula. -/
def loopProduct (r : FunctionRecord) : Nat := 2 ^ r.loopDepth.toNat * (1 + r.growthOps.toNat)

/-- The points of the formula for recursion. -/
def recursionPart (r : FunctionRecord) : Nat := if r.hasRecursion then 20 else 0

theorem uncappedScore_eq (r : FunctionRecord) :
    r.uncappedScore = r.loopProduct + r.recursionPart + r.callFanout.toNat := rfl

theorem loopProduct_le {a b : FunctionRecord} (hloops : b.loopDepth ≤ a.loopDepth)
    (hgrowth : b.growthOps ≤ a.growthOps) : b.loopProduct ≤ a.loopProduct := by
  rw [UInt32.le_iff_toNat_le] at hloops hgrowth
  exact Nat.mul_le_mul (Nat.pow_le_pow_right (by decide) hloops) (Nat.add_le_add_left hgrowth 1)

theorem recursionPart_le {a b : FunctionRecord}
    (hrecursion : b.hasRecursion = true → a.hasRecursion = true) :
    b.recursionPart ≤ a.recursionPart := by
  unfold recursionPart
  cases hb : b.hasRecursion with
  | false => exact Nat.zero_le _
  | true => simp [hrecursion hb]

/-- A function with at least as many loops, growing collections and calls, that calls itself if the
other one does, scores at least as much. -/
theorem score_le_score {a b : FunctionRecord} (hloops : b.loopDepth ≤ a.loopDepth)
    (hgrowth : b.growthOps ≤ a.growthOps) (hcalls : b.callFanout ≤ a.callFanout)
    (hrecursion : b.hasRecursion = true → a.hasRecursion = true) : b.score ≤ a.score := by
  have hproduct := loopProduct_le hloops hgrowth
  have hpart := recursionPart_le hrecursion
  rw [UInt32.le_iff_toNat_le] at hcalls
  rw [UInt64.le_iff_toNat_le, toNat_score, toNat_score, uncappedScore_eq, uncappedScore_eq]
  omega

end FunctionRecord

end EnergyAudit
