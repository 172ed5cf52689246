import EnergyAudit.Proofs.Python.Metrics
import EnergyAudit.Proofs.Score.Ranking
import EnergyAudit.Proofs.Score.Total
import EnergyAudit.Python.Extraction

/-!
# Functions within functions

A function counts everything that is in its body, also what is in the functions that are defined
there.  So it has at least as much of everything as each of them, and unless one of them calls
itself and it does not, it comes first in the ranking.

## Main definitions

* `IsSyntaxTree` — what is assumed of the trees that a parser makes.
* `Encloses` — one function is defined in the body of another one.
* `FunctionRecord.Dominates` — a function that has at least as much of everything as another one.

## Main results

* `pairwise_records` — every record starts before those behind it.
* `Encloses.dominates` — an enclosing function dominates what it contains.
* `Encloses.dominates_and_outranks` — and it comes first in the ranking.
-/

namespace EnergyAudit

open EnergyAudit.Tree

namespace FunctionRecord

/-- A function has at least as much of everything but recursion as another one. -/
structure Dominates (a b : FunctionRecord) : Prop where
  loopDepth : b.loopDepth ≤ a.loopDepth
  growthOps : b.growthOps ≤ a.growthOps
  callFanout : b.callFanout ≤ a.callFanout
  expensiveCalls : b.expensiveCalls ⊆ a.expensiveCalls
  loopIssues : b.loopIssues ⊆ a.loopIssues

end FunctionRecord

/-- The visited node stands in a node that has the given nodes above it. -/
def Tree.Visit.LiesIn (w : Visit) (n : Node) (above : List Node) : Prop :=
  ∃ path, w.node :: w.ancestors = path ++ n :: above

namespace Python

/-! ### Records by their first bytes -/

theorem dropRepeated_sublist (records : List FunctionRecord) :
    (dropRepeated records).Sublist records := by
  fun_induction dropRepeated records with
  | case1 a b rest _ ih => exact ih.trans ((List.sublist_cons_self b rest).cons_cons a)
  | case2 a b rest _ ih => exact ih.cons_cons a
  | case3 rest => exact List.Sublist.refl _

theorem pairwise_dropRepeated {records : List FunctionRecord}
    (h : records.Pairwise fun a b => a.span.startByte ≤ b.span.startByte) :
    (dropRepeated records).Pairwise fun a b => a.span.startByte < b.span.startByte := by
  fun_induction dropRepeated records with
  | case1 a b rest _ ih => exact ih (h.sublist ((List.sublist_cons_self b rest).cons_cons a))
  | case2 a b rest hne ih =>
    obtain ⟨ha, hrest⟩ := List.pairwise_cons.mp h
    have hab : a.span.startByte < b.span.startByte :=
      Nat.lt_of_le_of_ne (ha b List.mem_cons_self) fun heq => hne (beq_iff_eq.mpr heq)
    refine List.pairwise_cons.mpr ⟨fun c hc => ?_, ih hrest⟩
    rcases List.mem_cons.mp ((dropRepeated_sublist _).subset hc) with rfl | hc
    · exact hab
    · exact Nat.lt_of_lt_of_le hab ((List.pairwise_cons.mp hrest).1 c hc)
  | case3 rest hshort =>
    match rest, hshort with
    | [], _ => exact .nil
    | [a], _ => exact List.pairwise_singleton _ a
    | a :: b :: rest, hshort => exact absurd rfl (hshort a b rest)

/-- Every record starts before those behind it. -/
theorem pairwise_records (p : ParsedSource) :
    (records p).Pairwise fun a b => a.span.startByte < b.span.startByte := by
  refine pairwise_dropRepeated (List.Pairwise.imp of_decide_eq_true ?_)
  refine List.pairwise_mergeSort ?_ ?_ _
  · intro a b c hab hbc
    exact decide_eq_true (Nat.le_trans (of_decide_eq_true hab) (of_decide_eq_true hbc))
  · intro a b
    rw [Bool.or_eq_true, decide_eq_true_eq, decide_eq_true_eq]
    exact Nat.le_total _ _

/-- Every record is that of a visited node. -/
theorem exists_visit_of_mem_records {p : ParsedSource} {r : FunctionRecord} (hr : r ∈ records p) :
    ∃ v ∈ p.root.visits, recordOf? p.source v = some r := by
  have hmem := (dropRepeated_sublist _).subset hr
  rw [List.mem_mergeSort] at hmem
  obtain ⟨v, hv, hrecord⟩ := List.mem_filterMap.mp hmem
  exact ⟨v, Array.mem_toList_iff.mp hv, hrecord⟩

theorem nodup_records (p : ParsedSource) : (records p).Nodup :=
  (pairwise_records p).imp fun hlt => ne_of_apply_ne (·.span.startByte) (Nat.ne_of_lt hlt)

/-- Of two records the one that starts no later is listed first. -/
theorem sublist_records {p : ParsedSource} {a b : FunctionRecord} (ha : a ∈ records p)
    (hb : b ∈ records p) (hne : a ≠ b) (hle : a.span.startByte ≤ b.span.startByte) :
    [a, b].Sublist (records p) := by
  refine (pair_sublist_or ha hb hne).resolve_right fun h => ?_
  have hlt : b.span.startByte < a.span.startByte :=
    List.rel_of_pairwise_cons ((pairwise_records p).sublist h) (by simp)
  exact Nat.lt_irrefl _ (Nat.lt_of_lt_of_le hlt hle)

/-! ### What one definition has of another -/

/-- Counters of 32 bits find the same in a definition as natural numbers do, if there are no more
loops and calls in the tree than they can count. -/
theorem metricsOf_eq_map_ofNat {root : Node} {v : Visit} (hv : v.node.Within root)
    (hfew : loopsAndCalls root < UInt32.size) (source : ByteArray) (name : String) :
    (metricsOf source v name : BodyMetrics UInt32) =
      (metricsOf source v name : BodyMetrics Nat).map UInt32.ofNat := by
  unfold metricsOf
  split
  · next body hbody =>
    have hle := loopsAndCalls_le_of_within ((Node.within_of_childByField? hbody).trans hv)
    exact BodyMetrics.ofBody_eq_map_ofNat (Nat.lt_of_le_of_lt hle hfew)
  · rfl

theorem uint32OfNat_le {a b : Nat} (h : a ≤ b) (hb : b < UInt32.size) :
    UInt32.ofNat a ≤ UInt32.ofNat b :=
  (UInt32.ofNat_le_iff_le (Nat.lt_of_le_of_lt h hb) hb).mpr h

theorem BodyMetrics.dominates_empty (m : BodyMetrics Nat) : m.Dominates .empty where
  loops := Nat.zero_le _
  growth := Nat.zero_le _
  calls := Nat.zero_le _
  costly := List.nil_subset _
  issues := List.nil_subset _

/-- The metrics of a body dominate those of each definition within it. -/
theorem dominates_metricsOf {source : ByteArray} {body : Node} {w : Visit}
    (h : w.node.Within body) (name name' : String) (isMethod : Bool) :
    (BodyMetrics.ofBody source body name isMethod).Dominates (metricsOf source w name') := by
  unfold metricsOf
  split
  · next part hpart =>
    exact BodyMetrics.dominates_of_within ((Node.within_of_childByField? hpart).trans h) _ _ _ _
  · exact BodyMetrics.dominates_empty _

/-- There are no more loops and calls in a definition than in the whole tree. -/
theorem metricsOf_le {root : Node} {v : Visit} (hv : v.node.Within root) (source : ByteArray)
    (name : String) :
    (metricsOf source v name : BodyMetrics Nat).maxLoopDepth ≤ loopsAndCalls root ∧
      (metricsOf source v name).growthOps ≤ loopsAndCalls root ∧
      (metricsOf source v name).callFanout ≤ loopsAndCalls root := by
  unfold metricsOf
  split
  · next body hbody =>
    have hle := loopsAndCalls_le_of_within ((Node.within_of_childByField? hbody).trans hv)
    obtain ⟨hloops, hgrowth, hcalls⟩ := BodyMetrics.bounds source body name (isMethod v.ancestors)
    exact ⟨Nat.le_trans hloops hle, Nat.le_trans hgrowth hle, Nat.le_trans hcalls hle⟩
  · exact ⟨Nat.zero_le _, Nat.zero_le _, Nat.zero_le _⟩

/-- Records compare as their metrics do, if there are no more loops and calls in the tree than 32
bits can count. -/
theorem recordOf_dominates {root : Node} {source : ByteArray} {v w : Visit} {name name' : String}
    (h : (metricsOf source v name : BodyMetrics Nat).Dominates (metricsOf source w name'))
    (hv : v.node.Within root) (hw : w.node.Within root) (hfew : loopsAndCalls root < UInt32.size) :
    (recordOf source v name).Dominates (recordOf source w name') := by
  obtain ⟨hloops, hgrowth, hcalls⟩ := metricsOf_le hv source name
  unfold recordOf
  rw [metricsOf_eq_map_ofNat hv hfew, metricsOf_eq_map_ofNat hw hfew]
  exact {
    loopDepth := uint32OfNat_le h.loops (Nat.lt_of_le_of_lt hloops hfew)
    growthOps := uint32OfNat_le h.growth (Nat.lt_of_le_of_lt hgrowth hfew)
    callFanout := uint32OfNat_le h.calls (Nat.lt_of_le_of_lt hcalls hfew)
    expensiveCalls := h.costly
    loopIssues := h.issues }

/-! ### Trees of a source text -/

/-- What is assumed of the trees that a parser makes: no node starts before the one above it, by
bytes or by rows, and there are no more loops and calls than 32 bits can count, as there are of all
nodes. -/
structure IsSyntaxTree (root : Node) : Prop where
  start_le : ∀ n : Node, n.Within root → ∀ c ∈ n.children,
    n.startByte ≤ c.startByte ∧ n.info.start.row ≤ c.info.start.row
  few : loopsAndCalls root < UInt32.size

/-- No node starts before one that it stands in. -/
theorem IsSyntaxTree.start_le_of_within {root n m : Node} (h : IsSyntaxTree root)
    (hn : n.Within m) (hm : m.Within root) :
    m.startByte ≤ n.startByte ∧ m.info.start.row ≤ n.info.start.row := by
  induction hn with
  | self => exact ⟨Nat.le_refl _, Nat.le_refl _⟩
  | child hc _ ih =>
    obtain ⟨hbyte, hrow⟩ := h.start_le _ hm _ hc
    obtain ⟨hbyte', hrow'⟩ := ih ((Node.Within.of_mem_children hc).trans hm)
    exact ⟨Nat.le_trans hbyte hbyte', Nat.le_trans hrow hrow'⟩

/-! ### Enclosing functions -/

/-- One function is defined in the body of another one, at any depth. -/
def Encloses (p : ParsedSource) (outer inner : FunctionRecord) : Prop :=
  ∃ v ∈ p.root.visits, ∃ w ∈ p.root.visits, ∃ body,
    recordOf? p.source v = some outer ∧ recordOf? p.source w = some inner ∧
      v.node.childByField? "body" = some body ∧ w.LiesIn body (v.node :: v.ancestors)

namespace Encloses

variable {p : ParsedSource} {outer inner : FunctionRecord} (h : Encloses p outer inner)
include h

/-- An enclosing function has at least as much of everything as each that it contains. -/
theorem dominates (hroot : IsSyntaxTree p.root) : outer.Dominates inner := by
  obtain ⟨v, hv, w, hw, body, houter, hinner, hbody, path, hpath⟩ := h
  obtain ⟨name, -, rfl⟩ := Option.map_eq_some_iff.mp houter
  obtain ⟨name', -, rfl⟩ := Option.map_eq_some_iff.mp hinner
  have hwbody : w.node.Within body := Node.within_of_isPath (Node.isPath_of_mem_visits hw) hpath
  have hmetrics : (metricsOf p.source v name : BodyMetrics Nat) =
      .ofBody p.source body name (isMethod v.ancestors) := by
    rw [metricsOf, hbody]
  refine recordOf_dominates ?_ (Node.within_of_mem_visits hv) (Node.within_of_mem_visits hw)
    hroot.few
  rw [hmetrics]
  exact dominates_metricsOf hwbody _ _ _

/-- An enclosing function starts no later than those that it contains, neither by bytes nor by
lines. -/
theorem start_le (hroot : IsSyntaxTree p.root) :
    outer.span.startByte ≤ inner.span.startByte ∧ outer.startLine ≤ inner.startLine := by
  obtain ⟨v, hv, w, hw, body, houter, hinner, hbody, path, hpath⟩ := h
  obtain ⟨name, -, rfl⟩ := Option.map_eq_some_iff.mp houter
  obtain ⟨name', -, rfl⟩ := Option.map_eq_some_iff.mp hinner
  have hwithin : w.node.Within v.node :=
    (Node.within_of_isPath (Node.isPath_of_mem_visits hw) hpath).trans
      (Node.within_of_childByField? hbody)
  obtain ⟨hbyte, hrow⟩ := hroot.start_le_of_within hwithin (Node.within_of_mem_visits hv)
  exact ⟨hbyte, Nat.succ_le_succ hrow⟩

/-- **An enclosing function dominates what it contains.**  It has at least as much of everything,
and unless the other one calls itself and it does not, it comes first in the ranking. -/
theorem dominates_and_outranks (hroot : IsSyntaxTree p.root) :
    outer.Dominates inner ∧
      (outer ∈ records p → inner ∈ records p → outer ≠ inner →
        (inner.hasRecursion = true → outer.hasRecursion = true) →
        (recordsByRank (records p)).Nodup ∧ ∃ k l : Nat, k < l ∧
          (recordsByRank (records p))[k]? = some outer ∧
          (recordsByRank (records p))[l]? = some inner ∧
          (rankRecords (records p))[k]? = some (outer.hotspotScore (k + 1)) ∧
          (rankRecords (records p))[l]? = some (inner.hotspotScore (l + 1))) := by
  have hdominates := h.dominates hroot
  refine ⟨hdominates, fun houter hinner hne hrecursion => ⟨?_, ?_⟩⟩
  · exact nodup_recordsByRank (nodup_records p)
  obtain ⟨hbyte, hline⟩ := h.start_le hroot
  have hscore : inner.score ≤ outer.score :=
    FunctionRecord.score_le_score hdominates.loopDepth hdominates.growthOps hdominates.callFanout
      hrecursion
  have hbefore : outer.goesBefore inner = true := by
    rw [FunctionRecord.goesBefore_iff]
    rcases UInt64.lt_or_eq_of_le hscore with hlt | heq
    · exact .inl hlt
    · exact .inr ⟨heq.symm, hline⟩
  have hsub := sublist_recordsByRank hbefore (sublist_records houter hinner hne hbyte)
  obtain ⟨k, l, hkl, hk, hl⟩ := exists_lt_of_pair_sublist hsub
  refine ⟨k, l, hkl, hk, hl, ?_, ?_⟩
  · rw [getElem?_rankRecords, hk, Option.map_some]
  · rw [getElem?_rankRecords, hl, Option.map_some]

end Encloses

/-! ### A function in a function -/

namespace Nested

/-- A node as it stands in a text without errors. -/
def node (kind : String) (field : Option String) (start stop : Text.Point)
    (children : List Node) : Node :=
  .mk ⟨kind, true, field, start, stop, false, false, false⟩ children

def innerName : Node := node "identifier" (some "name") ⟨14, 1, 5⟩ ⟨15, 1, 6⟩ []

def innerCall : Node := node "call" none ⟨21, 2, 2⟩ ⟨24, 2, 5⟩ []

def innerBody : Node := node "block" (some "body") ⟨21, 2, 2⟩ ⟨24, 2, 5⟩ [innerCall]

def innerNode : Node :=
  node "function_definition" none ⟨10, 1, 1⟩ ⟨24, 2, 5⟩ [innerName, innerBody]

def outerName : Node := node "identifier" (some "name") ⟨4, 0, 4⟩ ⟨5, 0, 5⟩ []

def outerBody : Node := node "block" (some "body") ⟨10, 1, 1⟩ ⟨24, 2, 5⟩ [innerNode]

def outerNode : Node :=
  node "function_definition" none ⟨0, 0, 0⟩ ⟨24, 2, 5⟩ [outerName, outerBody]

/-- A function `f` with a function `g` in its body, in which there is a call. -/
def source : ParsedSource := ⟨"def f():\n def g():\n  h()\n".toUTF8, outerNode⟩

def outerVisit : Visit := ⟨outerNode, [], none⟩

def innerVisit : Visit := ⟨innerNode, [outerBody, outerNode], none⟩

def outer : FunctionRecord := recordOf source.source outerVisit "f"

def inner : FunctionRecord := recordOf source.source innerVisit "g"

theorem recordOf?_outerVisit : recordOf? source.source outerVisit = some outer := by
  have hname : functionName? source.source outerNode = some "f" := by decide +kernel
  exact congrArg (Option.map _) hname

theorem recordOf?_innerVisit : recordOf? source.source innerVisit = some inner := by
  have hname : functionName? source.source innerNode = some "g" := by decide +kernel
  exact congrArg (Option.map _) hname

theorem isSyntaxTree : IsSyntaxTree source.root where
  start_le := by
    simp [Node.forall_within_mk, source, outerNode, outerName, outerBody, innerNode, innerName,
      innerBody, innerCall, node, Node.children, Node.startByte, Node.info]
  few := by decide +kernel

theorem visits_eq : source.root.visits.toList =
    [outerVisit, ⟨outerBody, [outerNode], some outerName⟩, innerVisit,
      ⟨innerBody, [innerNode, outerBody, outerNode], some innerName⟩,
      ⟨innerCall, [innerBody, innerNode, outerBody, outerNode], none⟩,
      ⟨innerName, [innerNode, outerBody, outerNode], none⟩, ⟨outerName, [outerNode], none⟩] := by
  simp [source, outerNode, outerName, outerBody, innerNode, innerName, innerBody, innerCall, node,
    Node.visits, Visit.walk, Visit.children, Visit.siblings, Node.children, outerVisit, innerVisit]

theorem records_eq : records source = [outer, inner] := by
  have hfound : source.root.visits.toList.filterMap (recordOf? source.source) = [outer, inner] := by
    rw [visits_eq, List.filterMap_cons_some recordOf?_outerVisit, List.filterMap_cons_none rfl,
      List.filterMap_cons_some recordOf?_innerVisit]
    rfl
  have hbyte : outer.span.startByte < inner.span.startByte := by decide
  rw [records, hfound, List.mergeSort_of_pairwise]
  · simp [dropRepeated, Nat.ne_of_lt hbyte]
  · simp [Nat.le_of_lt hbyte]

theorem encloses : Encloses source outer inner := by
  refine ⟨outerVisit, ?_, innerVisit, ?_, outerBody, recordOf?_outerVisit, recordOf?_innerVisit,
    rfl, [innerNode], rfl⟩
  · rw [← Array.mem_toList_iff, visits_eq]
    simp
  · rw [← Array.mem_toList_iff, visits_eq]
    simp

/-- The function with the other one in its body comes first. -/
theorem outer_dominates_and_outranks_inner :
    outer.Dominates inner ∧ (recordsByRank (records source)).Nodup ∧ ∃ k l : Nat, k < l ∧
      (recordsByRank (records source))[k]? = some outer ∧
      (recordsByRank (records source))[l]? = some inner ∧
      (rankRecords (records source))[k]? = some (outer.hotspotScore (k + 1)) ∧
      (rankRecords (records source))[l]? = some (inner.hotspotScore (l + 1)) := by
  obtain ⟨hdominates, houtranks⟩ := Encloses.dominates_and_outranks encloses isSyntaxTree
  refine ⟨hdominates, houtranks ?_ ?_ ?_ ?_⟩
  · simp [records_eq]
  · simp [records_eq]
  · exact ne_of_apply_ne (·.span.startByte) (by decide)
  · decide +kernel

end Nested

end Python

end EnergyAudit
