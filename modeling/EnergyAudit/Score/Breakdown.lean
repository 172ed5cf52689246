import EnergyAudit.Function.Record

/-!
# Scores

The score of a function adds up what its structure costs: two to the depth of its loops, times one
more than the calls within loops that make collections grow; a bonus if it calls itself; and its
calls.  All arithmetic stops at the largest 64-bit number.

## Main definitions

* `mulCapped`, `addCapped` — arithmetic that stops at the largest number.
* `ScoreBreakdown` — the parts of a score, with `ScoreBreakdown.ofRecord` and
  `ScoreBreakdown.total`.
* `baselineScore` — the score of a function that does nothing of note.
-/

namespace EnergyAudit

/-- The largest 64-bit number. -/
def maxScore : UInt64 := 18446744073709551615

/-- The product, or the largest number where the product does not fit. -/
def mulCapped (a b : UInt64) : UInt64 :=
  if a.toNat * b.toNat < UInt64.size then a * b else maxScore

/-- The sum, or the largest number where the sum does not fit. -/
def addCapped (a b : UInt64) : UInt64 :=
  if a.toNat + b.toNat < UInt64.size then a + b else maxScore

/-- Two to some power, or the largest number where the power does not fit. -/
def powerOfTwoCapped (exponent : UInt32) : UInt64 :=
  if exponent < 64 then 1 <<< exponent.toUInt64 else maxScore

/-- The points for a function that calls itself. -/
def recursionPoints : UInt64 := 20

/-- The points for each call. -/
def callPoints : UInt64 := 1

/-- The score of a function without loops, recursion, growth and calls. -/
def baselineScore : UInt64 := 1

/-- The parts of a score. -/
structure ScoreBreakdown where
  loopFactor : UInt64
  growthFactor : UInt64
  recursionBonus : UInt64
  fanoutCost : UInt64
deriving BEq, DecidableEq, Repr, Inhabited

namespace ScoreBreakdown

/-- The parts of the score of a function. -/
def ofRecord (r : FunctionRecord) : ScoreBreakdown where
  loopFactor := powerOfTwoCapped r.loopDepth
  growthFactor := 1 + r.growthOps.toUInt64
  recursionBonus := if r.hasRecursion then recursionPoints else 0
  fanoutCost := mulCapped r.callFanout.toUInt64 callPoints

/-- The score that the parts make. -/
def total (b : ScoreBreakdown) : UInt64 :=
  addCapped (addCapped (mulCapped b.loopFactor b.growthFactor) b.recursionBonus) b.fanoutCost

end ScoreBreakdown

end EnergyAudit
