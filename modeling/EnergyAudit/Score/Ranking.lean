import EnergyAudit.Score.Breakdown

/-!
# Ranking

The functions of a source from the costliest to the cheapest.  Of functions with equal scores the
one that starts on an earlier line goes first, and then the one that is earlier in the list.

## Main definitions

* `HotspotScore` — the score of a function with its place in the ranking.
* `rankRecords` — the ranking.
-/

namespace EnergyAudit

/-- The score of a function with its place in the ranking, which counts from 1. -/
structure HotspotScore where
  functionId : FunctionId
  score : UInt64
  rank : Nat
  breakdown : ScoreBreakdown
deriving BEq, DecidableEq, Repr, Inhabited

namespace FunctionRecord

/-- The score of a function. -/
def score (r : FunctionRecord) : UInt64 := (ScoreBreakdown.ofRecord r).total

/-- Whether a function may go before another one: it scores more, or as much and it starts no
later. -/
def goesBefore (a b : FunctionRecord) : Bool :=
  b.score < a.score || (a.score == b.score && a.startLine ≤ b.startLine)

/-- The score of a function in a place of the ranking. -/
def hotspotScore (r : FunctionRecord) (rank : Nat) : HotspotScore where
  functionId := r.id
  score := r.score
  rank
  breakdown := .ofRecord r

end FunctionRecord

/-- The functions in the order of their ranks. -/
def recordsByRank (records : List FunctionRecord) : List FunctionRecord :=
  records.mergeSort FunctionRecord.goesBefore

/-- The scores of all functions in the order of their ranks. -/
def rankRecords (records : List FunctionRecord) : List HotspotScore :=
  (recordsByRank records).mapIdx fun place r => r.hotspotScore (place + 1)

end EnergyAudit
