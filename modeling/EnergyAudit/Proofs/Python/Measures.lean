import EnergyAudit.Proofs.Python.Metrics
import EnergyAudit.Proofs.Tree.Tour
import Mathlib.Data.List.Sort
import Mathlib.Order.Bounds.Defs

/-!
# What the metrics of a body measure

Each metric of a body is told by the nodes in it and the paths to them: how many loops are on the
path to a node, what its calls are made to, and what they are called.  The metrics that a walk over
the body finds are these.

## Main definitions

* `Visit.loopLevel` — the number of loops on the path to a node.
* `CallsName`, `CallsMethod` — what a call is made to, by its nodes.
* `BodyMetrics.Measures` — what the metrics of a body are to tell.

## Main results

* `loopLevels_eq_tour` — the level that the walk finds is that number.
* `calleeOf_eq_name_iff`, `calleeOf_eq_member_iff` — the callee by the nodes of the call.
* `BodyMetrics.measures_ofBody` — the metrics of a body tell what they are to tell.
-/

namespace EnergyAudit

/-- Issues in increasing order are some of all issues in that order. -/
theorem LoopIssue.sublist_of_pairwise {issues : List LoopIssue} (h : issues.Pairwise (· < ·)) :
    issues.Sublist [concatInLoop, growthInLoop] := by
  have hantisymm : Std.Antisymm fun a b : LoopIssue => a < b :=
    ⟨fun a b hab hba => absurd (Nat.lt_trans hab hba) (Nat.lt_irrefl a.rank)⟩
  have hall : [concatInLoop, growthInLoop].Pairwise (· < ·) := by decide
  have hnodup : issues.Nodup := h.imp fun {a b} hlt heq => Nat.ne_of_lt hlt (congrArg rank heq)
  have hsubset : issues ⊆ [concatInLoop, growthInLoop] := by
    intro issue _
    cases issue <;> simp
  exact List.sublist_of_subperm_of_pairwise (List.subperm_of_subset hnodup hsubset) h hall

/-! ### Loops on a path -/

/-- The number of loops on the path to the visited node, the node included. -/
def Tree.Visit.loopLevel (v : Tree.Visit) : Nat :=
  v.path.countP fun n => n.kind ∈ ["for_statement", "while_statement"]

namespace Python

open EnergyAudit.Tree

theorem isLoop_iff {n : Node} :
    isLoop n = true ↔ n.kind ∈ ["for_statement", "while_statement"] := by
  simp [isLoop]

theorem foldr_loopLevel (path : List Node) : path.foldr loopLevel 0 =
    path.countP fun n => n.kind ∈ ["for_statement", "while_statement"] := by
  induction path with
  | nil => rfl
  | cons n path ih =>
    rw [List.foldr_cons, ih, loopLevel, List.countP_cons]
    simp only [isLoop_iff, decide_eq_true_eq]
    split <;> rfl

/-- The walk over a body finds every node with the number of loops on the path to it. -/
theorem loopLevels_eq_tour (body : Node) :
    loopLevels body = body.tour.map fun v => (v.node, v.loopLevel) := by
  rw [loopLevels, Node.levels_eq_tour]
  refine List.map_congr_left fun v _ => ?_
  rw [foldr_loopLevel, Visit.loopLevel]

/-! ### What a call is made to -/

/-- A node is a call to a name. -/
def CallsName (source : ByteArray) (n : Node) (name : String) : Prop :=
  n.kind = "call" ∧ ∃ target ∈ n.childByField? "function",
    target.kind = "identifier" ∧ target.text source = name

/-- A node is a call to a method of an object: to an attribute, by the texts of its two parts. -/
def CallsMethod (source : ByteArray) (n : Node) (object method : String) : Prop :=
  n.kind = "call" ∧ ∃ target ∈ n.childByField? "function",
    target.kind = "attribute" ∧ fieldText source target "object" = object ∧
      fieldText source target "attribute" = method

/-- A node is a call to a method that makes a collection grow. -/
def CallsGrowth (source : ByteArray) (n : Node) : Prop :=
  n.kind = "call" ∧ ∃ target ∈ n.childByField? "function",
    target.kind = "attribute" ∧ fieldText source target "attribute" ∈
      ["append", "appendleft", "extend", "insert", "add", "update"]

instance (source : ByteArray) (n : Node) : Decidable (CallsGrowth source n) :=
  inferInstanceAs (Decidable (_ ∧ ∃ target ∈ _, _))

/-- A node is a call of a function to itself, for a method also as an attribute of its object. -/
def CallsItself (source : ByteArray) (name : String) (isMethod : Bool) (n : Node) : Prop :=
  CallsName source n name ∨
    isMethod = true ∧ ∃ object ∈ ["self", "cls"], CallsMethod source n object name

/-- A node is a costly call, told by a text. -/
def CallsCostly (source : ByteArray) (n : Node) (text : String) : Prop :=
  text ∈ ["sorted", "open", "print"] ∧ CallsName source n text ∨
    text = "sort()" ∧ ∃ object, CallsMethod source n object "sort"

/-- A node adds to a variable by `+=`. -/
def IsConcat (n : Node) : Prop :=
  n.kind = "augmented_assignment" ∧ ∃ operator ∈ n.childByField? "operator", operator.kind = "+="

theorem calleeOf_eq_name_iff {source : ByteArray} {n : Node} {name : String} :
    calleeOf source n = .name name ↔ ∃ target ∈ n.childByField? "function",
      target.kind = "identifier" ∧ target.text source = name := by
  unfold calleeOf
  cases n.childByField? "function" with
  | none => simp
  | some target =>
    by_cases hname : target.kind = "identifier"
    · simp [hname]
    · by_cases hmember : target.kind = "attribute" <;> simp [hname, hmember]

theorem calleeOf_eq_member_iff {source : ByteArray} {n : Node} {object method : String} :
    calleeOf source n = .member object method ↔ ∃ target ∈ n.childByField? "function",
      target.kind = "attribute" ∧ fieldText source target "object" = object ∧
        fieldText source target "attribute" = method := by
  unfold calleeOf
  cases n.childByField? "function" with
  | none => simp
  | some target =>
    by_cases hname : target.kind = "identifier"
    · simp [hname]
    · by_cases hmember : target.kind = "attribute" <;> simp [hname, hmember]

theorem callsName_iff {source : ByteArray} {n : Node} {name : String} :
    CallsName source n name ↔ n.kind = "call" ∧ calleeOf source n = .name name :=
  and_congr_right fun _ => calleeOf_eq_name_iff.symm

theorem callsMethod_iff {source : ByteArray} {n : Node} {object method : String} :
    CallsMethod source n object method ↔ n.kind = "call" ∧
      calleeOf source n = .member object method :=
  and_congr_right fun _ => calleeOf_eq_member_iff.symm

/-! ### The calls of a body -/

/-- There is a call of some kind if there is a node of such a call. -/
theorem exists_mem_callsAmong {source : ByteArray} {body : Node} {P : Call → Prop} :
    (∃ call ∈ callsAmong source (loopLevels body), P call) ↔
      ∃ v ∈ body.tour, v.node.kind = "call" ∧ P ⟨calleeOf source v.node, v.loopLevel⟩ := by
  simp only [callsAmong, loopLevels_eq_tour, List.mem_filterMap, List.mem_map,
    Option.ite_none_right_eq_some, Option.some.injEq, beq_iff_eq]
  constructor
  · rintro ⟨_, ⟨_, ⟨v, hv, rfl⟩, hkind, rfl⟩, hP⟩
    exact ⟨v, hv, hkind, hP⟩
  · rintro ⟨v, hv, hkind, hP⟩
    exact ⟨_, ⟨_, ⟨v, hv, rfl⟩, hkind, rfl⟩, hP⟩

/-- Calls are counted by the nodes that they are made at. -/
theorem countP_callsAmong (source : ByteArray) (body : Node) (p : Call → Bool) :
    (callsAmong source (loopLevels body)).countP p = body.tour.countP fun v =>
      v.node.kind == "call" && p ⟨calleeOf source v.node, v.loopLevel⟩ := by
  rw [callsAmong, List.countP_filterMap, loopLevels_eq_tour, List.countP_map]
  refine List.countP_congr fun v _ => ?_
  rw [Function.comp_apply]
  by_cases hkind : v.node.kind = "call" <;> simp [hkind]

theorem Call.isGrowth_iff {c : Call} : c.isGrowth = true ↔ 0 < c.level ∧
    ∃ object, ∃ method ∈ growthMethods, c.callee = .member object method := by
  obtain ⟨callee, level⟩ := c
  cases callee <;> simp [isGrowth, Callee.isGrowth, and_comm]

namespace Callee

theorem isRecursion_iff {name : String} {isMethod : Bool} {callee : Callee} :
    callee.isRecursion name isMethod = true ↔ callee = .name name ∨
      isMethod = true ∧ ∃ object ∈ ["self", "cls"], callee = .member object name := by
  cases callee with
  | name text => simp [isRecursion]
  | member object method =>
    simp only [isRecursion, Bool.and_eq_true, Bool.or_eq_true, beq_iff_eq, Callee.member.injEq,
      List.mem_cons, List.not_mem_nil, reduceCtorEq, false_or, or_false, and_assoc]
    constructor
    · rintro ⟨hmethod, rfl, hobject⟩
      exact ⟨hmethod, object, hobject, rfl, rfl⟩
    · rintro ⟨hmethod, _, hobject, rfl, rfl⟩
      exact ⟨hmethod, rfl, hobject⟩
  | other => simp [isRecursion]

theorem costly?_eq_some_iff {callee : Callee} {text : String} : callee.costly? = some text ↔
    text ∈ costlyFunctions ∧ callee = .name text ∨
      text = "sort()" ∧ ∃ object, callee = .member object "sort" := by
  cases callee with
  | name name =>
    simp only [costly?, List.contains_eq_mem, decide_eq_true_eq, Option.ite_none_right_eq_some,
      Option.some.injEq, Callee.name.injEq, reduceCtorEq, exists_false, and_false, or_false]
    constructor
    · rintro ⟨hcostly, rfl⟩
      exact ⟨hcostly, rfl⟩
    · rintro ⟨hcostly, rfl⟩
      exact ⟨hcostly, rfl⟩
  | member object method => simp [costly?, and_comm, eq_comm (a := text)]
  | other => simp [costly?]

end Callee

/-! ### The metrics of a body -/

namespace BodyMetrics

/-- What the metrics of the body of a function tell: how deep its loops are nested, how many calls
there are and how many of them make a collection grow within a loop, whether the function calls
itself, which costly calls there are, and what arises from loops. -/
structure Measures (source : ByteArray) (body : Node) (name : String) (isMethod : Bool)
    (m : BodyMetrics Nat) : Prop where
  maxLoopDepth : IsGreatest {level | ∃ v ∈ body.tour, v.loopLevel = level} m.maxLoopDepth
  callFanout : m.callFanout = body.tour.countP fun v => v.node.kind = "call"
  growthOps : m.growthOps = body.tour.countP fun v => 1 ≤ v.loopLevel ∧ CallsGrowth source v.node
  hasRecursion : m.hasRecursion = true ↔ ∃ v ∈ body.tour, CallsItself source name isMethod v.node
  ascending : m.expensiveCalls.Pairwise (· < ·)
  mem_costly : ∀ text, text ∈ m.expensiveCalls ↔ ∃ v ∈ body.tour, CallsCostly source v.node text
  /-- The issues are listed in a fixed order and each at most once. -/
  issues : m.loopIssues.Sublist [.concatInLoop, .growthInLoop]
  concat : .concatInLoop ∈ m.loopIssues ↔ ∃ v ∈ body.tour, 1 ≤ v.loopLevel ∧ IsConcat v.node
  growth : .growthInLoop ∈ m.loopIssues ↔ 0 < m.growthOps

variable (source : ByteArray) (body : Node) (name : String) (isMethod : Bool)

/-- The depth of loops is the greatest level of all nodes. -/
theorem isGreatest_maxLoopDepth : IsGreatest {level | ∃ v ∈ body.tour, v.loopLevel = level}
    (ofBody source body name isMethod).maxLoopDepth := by
  have hle : ∀ {bound : Nat}, (ofBody source body name isMethod).maxLoopDepth ≤ bound ↔
      ∀ v ∈ body.tour, v.loopLevel ≤ bound := by
    intro bound
    rw [maxLoopDepth_le_iff, loopLevels_eq_tour, List.forall_mem_map]
  have hbound := hle.mp (Nat.le_refl _)
  refine ⟨?_, ?_⟩
  · -- If no node were at the level of the depth, all would be below it, and the depth as well.
    by_contra hnone
    have hbelow : ∀ v ∈ body.tour,
        v.loopLevel ≤ (ofBody source body name isMethod).maxLoopDepth - 1 := by
      intro v hv
      have hne : v.loopLevel ≠ (ofBody source body name isMethod).maxLoopDepth :=
        fun heq => hnone ⟨v, hv, heq⟩
      have := hbound v hv
      omega
    have hdepth := hle.mpr hbelow
    have hroot : (⟨body, [], none⟩ : Visit) ∈ body.tour := body.mem_tour_root
    have hne : (⟨body, [], none⟩ : Visit).loopLevel ≠
        (ofBody source body name isMethod).maxLoopDepth := fun heq => hnone ⟨_, hroot, heq⟩
    have := hbound _ hroot
    omega
  · rintro level ⟨v, hv, rfl⟩
    exact hbound v hv

theorem callFanout_eq : (ofBody source body name isMethod).callFanout =
    body.tour.countP fun v => v.node.kind = "call" := by
  have hcount := countP_callsAmong source body fun _ => true
  rw [List.countP_true] at hcount
  rw [callFanout_eq_length, hcount]
  refine List.countP_congr fun v _ => ?_
  simp

theorem growthOps_eq : (ofBody source body name isMethod).growthOps =
    body.tour.countP fun v => 1 ≤ v.loopLevel ∧ CallsGrowth source v.node := by
  rw [growthOps_eq_countP, countP_callsAmong]
  refine List.countP_congr fun v _ => ?_
  rw [Bool.and_eq_true, beq_iff_eq, Call.isGrowth_iff, decide_eq_true_eq, CallsGrowth]
  dsimp only
  simp only [calleeOf_eq_member_iff]
  constructor
  · rintro ⟨hkind, hlevel, object, method, hgrowth, target, htarget, hmember, -, rfl⟩
    exact ⟨hlevel, hkind, target, htarget, hmember, hgrowth⟩
  · rintro ⟨hlevel, hkind, target, htarget, hmember, hgrowth⟩
    exact ⟨hkind, hlevel, _, _, hgrowth, target, htarget, hmember, rfl, rfl⟩

theorem hasRecursion_iff : (ofBody source body name isMethod).hasRecursion = true ↔
    ∃ v ∈ body.tour, CallsItself source name isMethod v.node := by
  rw [ofBody_eq_reading]
  refine List.any_eq_true.trans (exists_mem_callsAmong.trans ?_)
  refine exists_congr fun v => and_congr_right fun _ => ?_
  simp only [Callee.isRecursion_iff, CallsItself, callsName_iff, callsMethod_iff]
  constructor
  · rintro ⟨hkind, hname | ⟨hmethod, object, hobject, hmember⟩⟩
    · exact .inl ⟨hkind, hname⟩
    · exact .inr ⟨hmethod, object, hobject, hkind, hmember⟩
  · rintro (⟨hkind, hname⟩ | ⟨hmethod, object, hobject, hkind, hmember⟩)
    · exact ⟨hkind, .inl hname⟩
    · exact ⟨hkind, .inr ⟨hmethod, object, hobject, hmember⟩⟩

theorem mem_expensiveCalls_iff {text : String} :
    text ∈ (ofBody source body name isMethod).expensiveCalls ↔
      ∃ v ∈ body.tour, CallsCostly source v.node text := by
  rw [mem_expensiveCalls, exists_mem_callsAmong]
  refine exists_congr fun v => and_congr_right fun _ => ?_
  simp only [Callee.costly?_eq_some_iff, CallsCostly, callsName_iff, callsMethod_iff]
  constructor
  · rintro ⟨hkind, ⟨hcostly, hname⟩ | ⟨htext, object, hmember⟩⟩
    · exact .inl ⟨hcostly, hkind, hname⟩
    · exact .inr ⟨htext, object, hkind, hmember⟩
  · rintro (⟨hcostly, hkind, hname⟩ | ⟨htext, object, hkind, hmember⟩)
    · exact ⟨hkind, .inl ⟨hcostly, hname⟩⟩
    · exact ⟨hkind, .inr ⟨htext, object, hmember⟩⟩

theorem pairwise_expensiveCalls :
    (ofBody source body name isMethod : BodyMetrics Nat).expensiveCalls.Pairwise (· < ·) := by
  rw [ofBody_eq_reading]
  refine Ascending.pairwise_ofList ?_ String.lt_trans _
  intro a b hab hba
  exact String.le_antisymm hba hab

theorem pairwise_loopIssues :
    (ofBody source body name isMethod : BodyMetrics Nat).loopIssues.Pairwise (· < ·) := by
  rw [ofBody_eq_reading]
  have htrans : ∀ {a b c : LoopIssue}, a < b → b < c → a < c :=
    fun hab hbc => Nat.lt_trans hab hbc
  refine Ascending.pairwise_ofList ?_ htrans _
  intro a b
  cases a <;> cases b <;> decide

/-- There is an issue of some kind if there is a node at which it arises. -/
theorem mem_loopIssues_iff {issue : LoopIssue} :
    issue ∈ (ofBody source body name isMethod : BodyMetrics Nat).loopIssues ↔
      ∃ v ∈ body.tour, issueAt? source v.node v.loopLevel = some issue := by
  rw [mem_loopIssues, loopLevels_eq_tour]
  simp only [List.mem_map, exists_exists_and_eq_and]

theorem concatInLoop_mem_loopIssues :
    .concatInLoop ∈ (ofBody source body name isMethod : BodyMetrics Nat).loopIssues ↔
      ∃ v ∈ body.tour, 1 ≤ v.loopLevel ∧ IsConcat v.node := by
  rw [mem_loopIssues_iff]
  refine exists_congr fun v => and_congr_right fun _ => ?_
  unfold issueAt? isConcat IsConcat
  by_cases hcall : v.node.kind = "call"
  · simp [hcall]
  · simp [hcall, Nat.pos_iff_ne_zero, Nat.one_le_iff_ne_zero, and_comm]

theorem growthInLoop_mem_loopIssues :
    .growthInLoop ∈ (ofBody source body name isMethod : BodyMetrics Nat).loopIssues ↔
      0 < (ofBody source body name isMethod : BodyMetrics Nat).growthOps := by
  rw [mem_loopIssues_iff, growthOps_eq_countP, countP_callsAmong, List.countP_pos_iff]
  refine exists_congr fun v => and_congr_right fun _ => ?_
  unfold issueAt? Call.isGrowth
  by_cases hcall : v.node.kind = "call"
  · simp [hcall, Nat.pos_iff_ne_zero]
  · simp [hcall]

theorem ofBody_measures :
    (ofBody source body name isMethod).Measures source body name isMethod where
  maxLoopDepth := isGreatest_maxLoopDepth source body name isMethod
  callFanout := callFanout_eq source body name isMethod
  growthOps := growthOps_eq source body name isMethod
  hasRecursion := hasRecursion_iff source body name isMethod
  ascending := pairwise_expensiveCalls source body name isMethod
  mem_costly _ := mem_expensiveCalls_iff source body name isMethod
  issues := LoopIssue.sublist_of_pairwise (pairwise_loopIssues source body name isMethod)
  concat := concatInLoop_mem_loopIssues source body name isMethod
  growth := growthInLoop_mem_loopIssues source body name isMethod

/-- **The metrics of a body measure its loops and calls**, node by node, for every body, name and
kind of function.  Counters of 32 bits measure the same as long as they can count all loops and
calls. -/
theorem measures_ofBody :
    (ofBody source body name isMethod).Measures source body name isMethod ∧
      (loopsAndCalls body < UInt32.size →
        (ofBody source body name isMethod : BodyMetrics UInt32) =
          (ofBody source body name isMethod : BodyMetrics Nat).map UInt32.ofNat) :=
  ⟨ofBody_measures source body name isMethod, ofBody_eq_map_ofNat⟩

end BodyMetrics

end Python

end EnergyAudit
