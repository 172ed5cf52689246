import EnergyAudit.Proofs.Analysis.Hotspots
import EnergyAudit.Proofs.Python.Coherence

/-!
# Functions with the least score

Since the parts of a record fit together, a function has the least score only if there is nothing to
say of it: no loop, no recursion and no call, hence no reason either.  So in a report every function
with a reason is among the ones that score above the least.

## Main results

* `FunctionRecord.score_eq_baselineScore_iff` — which functions have the least score by the formula.
* `FunctionRecord.reasons_of_score_eq_baseline` — there is nothing to say of them.
* `Python.reasons_counted` — what this means for the records of a tree and for reports on it.
-/

namespace EnergyAudit

open EnergyAudit.Tree

/-! ### The least score -/

namespace FunctionRecord

variable {r : FunctionRecord}

theorem baselineScore_le_score (r : FunctionRecord) : baselineScore ≤ r.score := by
  have hone := r.one_le_uncappedScore
  have hbaseline : baselineScore.toNat = 1 := rfl
  rw [UInt64.le_iff_toNat_le, toNat_score, hbaseline, scoreCap]
  omega

theorem loopProduct_eq_one_iff :
    r.loopProduct = 1 ↔ r.loopDepth.toNat = 0 ∧ r.growthOps.toNat = 0 := by
  unfold loopProduct
  constructor
  · intro h
    have hpower := Nat.eq_one_of_mul_eq_one_right h
    have hgrowth := Nat.eq_one_of_mul_eq_one_left h
    rw [Nat.pow_eq_one] at hpower
    omega
  · rintro ⟨hloops, hgrowth⟩
    simp [hloops, hgrowth]

theorem recursionPart_eq_zero_iff : r.recursionPart = 0 ↔ r.hasRecursion = false := by
  unfold recursionPart
  cases r.hasRecursion <;> simp

/-- The functions with the least score are those of which the formula counts nothing. -/
theorem score_eq_baselineScore_iff : r.score = baselineScore ↔
    r.loopDepth.toNat = 0 ∧ r.growthOps.toNat = 0 ∧ r.hasRecursion = false ∧
      r.callFanout.toNat = 0 := by
  have hbaseline : baselineScore.toNat = 1 := rfl
  have hproduct : 1 ≤ r.loopProduct := Nat.mul_pos (Nat.two_pow_pos _) (by omega)
  rw [← UInt64.toNat_inj, toNat_score, hbaseline, scoreCap, uncappedScore_eq, ← and_assoc,
    ← loopProduct_eq_one_iff, ← recursionPart_eq_zero_iff]
  omega

/-- There is no reason behind a score if nothing was found. -/
theorem reasons_eq_nil_iff : r.reasons = [] ↔ r.loopDepth = 0 ∧ r.hasRecursion = false ∧
    r.growthOps = 0 ∧ r.expensiveCalls = [] ∧ r.loopIssues = [] := by
  have hpos : ∀ n : UInt32, 0 < n ↔ ¬ n = 0 := fun n => UInt32.pos_iff_ne_zero
  unfold reasons
  simp [hpos]

variable (h : r.metrics.IsCoherent)
include h

/-- Of records that fit together those with the least score have no loop, no recursion and no
call. -/
theorem score_eq_baseline_iff : r.score = baselineScore ↔
    r.loopDepth = 0 ∧ r.hasRecursion = false ∧ r.callFanout = 0 := by
  have hgrowth : r.growthOps.toNat ≤ r.callFanout.toNat := h.growthOps_le
  have hzero : ∀ n : UInt32, n = 0 ↔ n.toNat = 0 := fun n => UInt32.toNat_inj.symm
  rw [score_eq_baselineScore_iff, hzero, hzero]
  constructor
  · rintro ⟨hloops, -, hrecursion, hcalls⟩
    exact ⟨hloops, hrecursion, hcalls⟩
  · rintro ⟨hloops, hrecursion, hcalls⟩
    exact ⟨hloops, by omega, hrecursion, hcalls⟩

/-- There is nothing to say of a function with the least score. -/
theorem reasons_of_score_eq_baseline (hscore : r.score = baselineScore) :
    r.reasons = [] ∧ r.category = .computing := by
  obtain ⟨hloops, hgrowth, hrecursion, hcalls⟩ := score_eq_baselineScore_iff.mp hscore
  have hcostly : r.expensiveCalls = [] := by
    by_contra hne
    exact Nat.lt_irrefl _ (hcalls ▸ h.calls_pos (.inr hne))
  have hissues : r.loopIssues = [] := by
    by_contra hne
    exact Nat.lt_irrefl _ (hloops ▸ h.loops_pos hne)
  refine ⟨reasons_eq_nil_iff.mpr ⟨UInt32.toNat_inj.mp hloops, hrecursion,
    UInt32.toNat_inj.mp hgrowth, hcostly, hissues⟩, ?_⟩
  rw [category, opensFiles, hcostly]
  rfl

end FunctionRecord

/-! ### Reports -/

namespace Session

variable {u : SourceUnit} {records : List FunctionRecord} {rate : Float} {now : Nat}

/-- A row that shows a reason scores above the least. -/
theorem baselineScore_lt_of_reasons (hcoherent : ∀ r ∈ records, r.metrics.IsCoherent)
    (hdistinct : (records.map (·.id)).Nodup) {row : Hotspot}
    (hrow : row ∈ (ofRecords u records rate now).hotspots) (hreasons : row.reasons ≠ []) :
    baselineScore < row.score := by
  obtain ⟨r, hr, hisOf, -⟩ := exists_isOf_of_mem_hotspots hdistinct hrow
  rw [hisOf.reasons] at hreasons
  rw [hisOf.score]
  refine UInt64.lt_of_le_of_ne r.baselineScore_le_score fun heq => hreasons ?_
  exact (FunctionRecord.reasons_of_score_eq_baseline (hcoherent r hr) heq.symm).1

end Session

namespace Python

/-- **The parts of a record fit together**, for every tree with no more loops and calls than 32 bits
can count, as a parser does with all nodes.  So the functions with the least score are those without
loops, recursion and calls, and there is nothing to say of them.  In the report of a session in which
each function has an id of its own, every row with a reason is counted among those that score above
the least. -/
theorem reasons_counted (p : ParsedSource) (hfew : loopsAndCalls p.root < UInt32.size) :
    (∀ r ∈ records p, r.metrics.IsCoherent ∧
      (r.score = baselineScore ↔
        r.loopDepth = 0 ∧ r.hasRecursion = false ∧ r.callFanout = 0) ∧
      (r.score = baselineScore → r.reasons = [] ∧ r.category.label = "CPU")) ∧
    ∀ (u : SourceUnit) (rate : Float) (created : Nat) (accesses : List Nat),
      ((records p).map (·.id)).Nodup →
      let report := (Session.ofAccesses u (records p) rate created accesses).report
      report.summary.hotspotCount =
          report.hotspots.countP (fun row => baselineScore < row.score) ∧
        ∀ row ∈ report.hotspots, row.reasons ≠ [] → baselineScore < row.score := by
  refine ⟨fun r hr => ?_, fun u rate created accesses hdistinct => ⟨rfl, fun row hrow => ?_⟩⟩
  · have hcoherent := isCoherent_of_mem_records hfew hr
    refine ⟨hcoherent, FunctionRecord.score_eq_baseline_iff hcoherent, fun hscore => ?_⟩
    obtain ⟨hreasons, hcategory⟩ := FunctionRecord.reasons_of_score_eq_baseline hcoherent hscore
    exact ⟨hreasons, congrArg Category.label hcategory⟩
  · obtain ⟨latest, hs⟩ := Session.exists_ofAccesses_eq u (records p) rate created accesses
    rw [hs, Session.report_touched] at hrow
    exact Session.baselineScore_lt_of_reasons (fun r => isCoherent_of_mem_records hfew) hdistinct
      hrow

/-! ### A growing loop -/

namespace GrowingLoop

def target : Node :=
  Nested.node "attribute" (some "function") ⟨27, 2, 2⟩ ⟨36, 2, 11⟩
    [Nested.node "identifier" (some "object") ⟨27, 2, 2⟩ ⟨29, 2, 4⟩ [],
      Nested.node "identifier" (some "attribute") ⟨30, 2, 5⟩ ⟨36, 2, 11⟩ []]

def call : Node := Nested.node "call" none ⟨27, 2, 2⟩ ⟨39, 2, 14⟩ [target]

def loop : Node :=
  Nested.node "for_statement" none ⟨12, 1, 1⟩ ⟨39, 2, 14⟩
    [Nested.node "block" (some "body") ⟨27, 2, 2⟩ ⟨39, 2, 14⟩ [call]]

def root : Node :=
  Nested.node "function_definition" none ⟨0, 0, 0⟩ ⟨39, 2, 14⟩
    [Nested.node "identifier" (some "name") ⟨4, 0, 4⟩ ⟨5, 0, 5⟩ [],
      Nested.node "block" (some "body") ⟨12, 1, 1⟩ ⟨39, 2, 14⟩ [loop]]

/-- A function with a loop in which a list grows. -/
def source : ParsedSource := ⟨"def f(xs):\n for x in xs:\n  xs.append(x)\n".toUTF8, root⟩

/-- The function has a reason, and its row is counted. -/
theorem reasons_counted_growingLoop :
    loopsAndCalls source.root < UInt32.size ∧ ((records source).map (·.id)).Nodup ∧
      (∀ r ∈ records source, r.metrics.IsCoherent) ∧
      (records source).map (·.reasons) = [["Loop nesting depth = 1",
        "1 collection growth call(s) inside loops",
        "collection growth in loop (.append/.insert)"]] ∧
      ∀ row ∈ (Session.ofAccesses ⟨"", "python", defaultFilename⟩ (records source) 8.0 0
        []).report.hotspots, row.reasons ≠ [] → baselineScore < row.score := by
  have hfew : loopsAndCalls source.root < UInt32.size := by decide +kernel
  have hdistinct : ((records source).map (·.id)).Nodup := by decide +kernel
  obtain ⟨hrecords, hreport⟩ := reasons_counted source hfew
  obtain ⟨-, hrows⟩ := hreport ⟨"", "python", defaultFilename⟩ 8.0 0 [] hdistinct
  exact ⟨hfew, hdistinct, fun r hr => (hrecords r hr).1, by decide +kernel, hrows⟩

end GrowingLoop

end Python

end EnergyAudit
