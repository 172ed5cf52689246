import EnergyAudit.Proofs.Python.Enclosing
import EnergyAudit.Proofs.Python.Measures

/-!
# Records that fit together

What a record says of a function is found by one walk over its body, so the parts of it fit together:
a call that makes a collection grow is a call, what is wasteful in a loop takes a loop, a function
that calls itself makes a call.

## Main definitions

* `BodyMetrics.IsCoherent` — the parts of the metrics fit together.
* `FunctionRecord.metrics` — the metrics that a record tells.

## Main results

* `BodyMetrics.isCoherent_ofBody` — the metrics of a body fit together.
* `metrics_recordOf` — a record tells the metrics of the body, if 32 bits are enough.
* `isCoherent_of_mem_records` — the parts of every record fit together.
-/

namespace EnergyAudit

open EnergyAudit.Tree

/-! ### Metrics -/

namespace Python.BodyMetrics

/-- The parts of the metrics fit together. -/
structure IsCoherent (m : BodyMetrics Nat) : Prop where
  growthOps_le : m.growthOps ≤ m.callFanout
  length_costly_le : m.expensiveCalls.length ≤ m.callFanout
  growth_iff : 0 < m.growthOps ↔ .growthInLoop ∈ m.loopIssues
  loops_pos : m.loopIssues ≠ [] → 0 < m.maxLoopDepth
  calls_pos : m.hasRecursion = true ∨ m.expensiveCalls ≠ [] → 0 < m.callFanout
  costly_ascending : m.expensiveCalls.Pairwise (· < ·)
  issues_ascending : m.loopIssues.Pairwise (· < ·)

theorem isCoherent_empty : (empty : BodyMetrics Nat).IsCoherent where
  growthOps_le := Nat.le_refl 0
  length_costly_le := Nat.le_refl 0
  growth_iff := by simp [empty]
  loops_pos h := absurd rfl h
  calls_pos h := by simp [empty] at h
  costly_ascending := .nil
  issues_ascending := .nil

section OfBody

variable (source : ByteArray) (body : Node) (name : String) (isMethod : Bool)

theorem length_expensiveCalls_le : (ofBody source body name isMethod).expensiveCalls.length ≤
    (ofBody source body name isMethod).callFanout := by
  rw [callFanout_eq_length, ofBody_eq_reading]
  exact Nat.le_trans (Ascending.length_ofList_le _) (List.length_filterMap_le _ _)

/-- Whatever is wasteful is so within a loop. -/
theorem maxLoopDepth_pos
    (h : (ofBody source body name isMethod : BodyMetrics Nat).loopIssues ≠ []) :
    0 < (ofBody source body name isMethod).maxLoopDepth := by
  have hgreatest := isGreatest_maxLoopDepth source body name isMethod
  -- Each of the issues comes from a node within a loop.
  have hloop : ∃ v ∈ body.tour, 1 ≤ v.loopLevel := by
    obtain ⟨issue, hissue⟩ := List.exists_mem_of_ne_nil _ h
    cases issue with
    | concatInLoop =>
      obtain ⟨v, hv, hlevel, -⟩ :=
        (concatInLoop_mem_loopIssues source body name isMethod).mp hissue
      exact ⟨v, hv, hlevel⟩
    | growthInLoop =>
      have hgrowth := (growthInLoop_mem_loopIssues source body name isMethod).mp hissue
      rw [growthOps_eq, List.countP_pos_iff] at hgrowth
      obtain ⟨v, hv, hlevel⟩ := hgrowth
      exact ⟨v, hv, (of_decide_eq_true hlevel).1⟩
  obtain ⟨v, hv, hlevel⟩ := hloop
  exact Nat.lt_of_lt_of_le hlevel (hgreatest.2 ⟨v, hv, rfl⟩)

/-- A function that calls itself makes a call. -/
theorem callFanout_pos
    (h : (ofBody source body name isMethod : BodyMetrics Nat).hasRecursion = true) :
    0 < (ofBody source body name isMethod).callFanout := by
  obtain ⟨v, hv, hcall⟩ := (hasRecursion_iff source body name isMethod).mp h
  rw [callFanout_eq, List.countP_pos_iff]
  refine ⟨v, hv, decide_eq_true ?_⟩
  rcases hcall with hname | ⟨-, object, -, hmember⟩
  · exact hname.1
  · exact hmember.1

/-- The metrics of a body fit together. -/
theorem isCoherent_ofBody : (ofBody source body name isMethod).IsCoherent where
  growthOps_le := by
    rw [growthOps_eq_countP, callFanout_eq_length]
    exact List.countP_le_length
  length_costly_le := length_expensiveCalls_le source body name isMethod
  growth_iff := (growthInLoop_mem_loopIssues source body name isMethod).symm
  loops_pos := maxLoopDepth_pos source body name isMethod
  calls_pos h := by
    rcases h with hrecursion | hcostly
    · exact callFanout_pos source body name isMethod hrecursion
    · exact Nat.lt_of_lt_of_le (List.length_pos_iff.mpr hcostly)
        (length_expensiveCalls_le source body name isMethod)
  costly_ascending := pairwise_expensiveCalls source body name isMethod
  issues_ascending := pairwise_loopIssues source body name isMethod

end OfBody

end Python.BodyMetrics

/-! ### Records -/

/-- The metrics that a record tells. -/
def FunctionRecord.metrics (r : FunctionRecord) : Python.BodyMetrics Nat where
  maxLoopDepth := r.loopDepth.toNat
  hasRecursion := r.hasRecursion
  growthOps := r.growthOps.toNat
  callFanout := r.callFanout.toNat
  expensiveCalls := r.expensiveCalls
  loopIssues := r.loopIssues

namespace Python

theorem isCoherent_metricsOf (source : ByteArray) (v : Visit) (name : String) :
    (metricsOf source v name : BodyMetrics Nat).IsCoherent := by
  unfold metricsOf
  split
  · exact BodyMetrics.isCoherent_ofBody _ _ _ _
  · exact BodyMetrics.isCoherent_empty

/-- A record tells the metrics of the body, if there are no more loops and calls in the tree than 32
bits can count. -/
theorem metrics_recordOf {root : Node} {v : Visit} (hv : v.node.Within root)
    (hfew : loopsAndCalls root < UInt32.size) (source : ByteArray) (name : String) :
    (recordOf source v name).metrics = metricsOf source v name := by
  obtain ⟨hloops, hgrowth, hcalls⟩ := metricsOf_le hv source name
  have hmetrics : (recordOf source v name).metrics =
      (metricsOf source v name : BodyMetrics UInt32).map UInt32.toNat := rfl
  rw [hmetrics, metricsOf_eq_map_ofNat hv hfew]
  simp only [BodyMetrics.map, UInt32.toNat_ofNat_of_lt' (Nat.lt_of_le_of_lt hloops hfew),
    UInt32.toNat_ofNat_of_lt' (Nat.lt_of_le_of_lt hgrowth hfew),
    UInt32.toNat_ofNat_of_lt' (Nat.lt_of_le_of_lt hcalls hfew)]

theorem isCoherent_of_mem_records {p : ParsedSource} (hfew : loopsAndCalls p.root < UInt32.size)
    {r : FunctionRecord} (hr : r ∈ records p) : r.metrics.IsCoherent := by
  obtain ⟨v, hv, hrecord⟩ := exists_visit_of_mem_records hr
  obtain ⟨name, -, rfl⟩ := Option.map_eq_some_iff.mp hrecord
  rw [metrics_recordOf (Node.within_of_mem_visits hv) hfew]
  exact isCoherent_metricsOf p.source v name

end Python

end EnergyAudit
