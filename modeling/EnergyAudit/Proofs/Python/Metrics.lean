import EnergyAudit.Proofs.Tree.Walk
import EnergyAudit.Python.Metrics
import Mathlib.Data.List.Induction

/-!
# The metrics of a part of a body

The walk over a body adds one node after the other to all of its metrics at once.  What comes out of
it can be read off the list of nodes with their levels, each metric for itself, and counters of 32
bits lose nothing unless there are more loops and calls than these can count.

Whatever is in a part of a body is in the body too, within at least as many loops.  So none of the
metrics of the body is less than that of the part, whatever the functions are called.

## Main definitions

* `loopLevels` — all nodes of a body with the number of loops around each.
* `BodyMetrics.reading` — the metrics as they are read off these nodes.
* `loopsAndCalls` — the number of loops and calls in a tree.
* `BodyMetrics.Dominates` — metrics that are at least others in everything but recursion.

## Main results

* `BodyMetrics.ofBody_eq_reading` — the walk finds what is read off the nodes.
* `BodyMetrics.ofBody_eq_map_ofNat` — counters of 32 bits count as natural numbers do.
* `BodyMetrics.dominates_of_within` — the metrics of a body dominate those of its parts.
* `BodyMetrics.bounds` — no number among the metrics is larger than that of loops and calls.
-/

namespace EnergyAudit

/-! ### Lists of which one is found in the other -/

section Sublists

variable {α β γ δ : Type} {R : α → β → Prop} {xs : List α} {ys : List β}

theorem length_le_of_sublistForall₂ (h : List.SublistForall₂ R xs ys) : xs.length ≤ ys.length := by
  obtain ⟨zs, hzs, hsub⟩ := List.sublistForall₂_iff.mp h
  exact hzs.length_eq ▸ hsub.length_le

theorem exists_mem_of_sublistForall₂ (h : List.SublistForall₂ R xs ys) {x : α} (hx : x ∈ xs) :
    ∃ y ∈ ys, R x y := by
  induction h with
  | nil => cases hx
  | cons hxy _ ih =>
    rcases List.mem_cons.mp hx with rfl | hx
    · exact ⟨_, List.mem_cons_self, hxy⟩
    · obtain ⟨y, hy, hR⟩ := ih hx
      exact ⟨y, List.mem_cons_of_mem _ hy, hR⟩
  | cons_right _ ih =>
    obtain ⟨y, hy, hR⟩ := ih hx
    exact ⟨y, List.mem_cons_of_mem _ hy, hR⟩

theorem sublistForall₂_filterMap {S : γ → δ → Prop} {f : α → Option γ} {g : β → Option δ}
    (hfg : ∀ {x y c}, R x y → f x = some c → ∃ d, g y = some d ∧ S c d)
    (h : List.SublistForall₂ R xs ys) :
    List.SublistForall₂ S (xs.filterMap f) (ys.filterMap g) := by
  induction h with
  | nil => exact .nil
  | @cons x y xs ys hxy _ ih =>
    cases hx : f x with
    | none =>
      rw [List.filterMap_cons_none hx]
      cases hy : g y with
      | none => rwa [List.filterMap_cons_none hy]
      | some d =>
        rw [List.filterMap_cons_some hy]
        exact .cons_right ih
    | some c =>
      obtain ⟨d, hy, hcd⟩ := hfg hxy hx
      rw [List.filterMap_cons_some hx, List.filterMap_cons_some hy]
      exact .cons hcd ih
  | @cons_right y xs ys _ ih =>
    cases hy : g y with
    | none => rwa [List.filterMap_cons_none hy]
    | some d =>
      rw [List.filterMap_cons_some hy]
      exact .cons_right ih

theorem countP_le_of_sublistForall₂ {p : α → Bool} {q : β → Bool}
    (hpq : ∀ {x y}, R x y → p x = true → q y = true) (h : List.SublistForall₂ R xs ys) :
    xs.countP p ≤ ys.countP q := by
  induction h with
  | nil => exact Nat.zero_le _
  | @cons x y xs ys hxy _ ih =>
    rw [List.countP_cons, List.countP_cons]
    have hle : (if p x = true then 1 else 0) ≤ if q y = true then 1 else 0 := by
      cases hp : p x with
      | false => simp
      | true => simp [hpq hxy hp]
    omega
  | cons_right _ ih =>
    rw [List.countP_cons]
    omega

end Sublists

namespace Python

open EnergyAudit.Tree

/-! ### Nodes and calls of a body -/

/-- All nodes of a body with their loop levels. -/
def loopLevels (body : Node) : List (Node × Nat) := body.levelsOf loopLevel 0

/-- A call with its loop level. -/
structure Call where
  callee : Callee
  level : Nat

/-- Whether the call makes a collection grow within a loop. -/
def Call.isGrowth (c : Call) : Bool := c.callee.isGrowth && 0 < c.level

/-- The calls among some nodes with their levels. -/
def callsAmong (source : ByteArray) (nodes : List (Node × Nat)) : List Call :=
  nodes.filterMap fun (n, level) =>
    if n.kind == "call" then some ⟨calleeOf source n, level⟩ else none

/-- What is wasteful at a node within so many loops, if anything. -/
def issueAt? (source : ByteArray) (n : Node) (level : Nat) : Option LoopIssue :=
  if n.kind == "call" then
    if (calleeOf source n).isGrowth && 0 < level then some .growthInLoop else none
  else if isConcat n && 0 < level then some .concatInLoop
  else none

theorem isLevelStep_loopLevel : Node.IsLevelStep loopLevel isLoop where
  mono n a b hab := by
    unfold loopLevel
    split <;> omega
  le n above := by
    unfold loopLevel
    split <;> omega
  le_add n above := by
    unfold loopLevel
    split <;> omega

/-- The number of loops and calls in a tree. -/
def loopsAndCalls (n : Node) : Nat :=
  (loopLevels n).countP fun x => isLoop x.1 || x.1.kind == "call"

theorem countP_isLoop_le (n : Node) :
    (loopLevels n).countP (fun x => isLoop x.1) ≤ loopsAndCalls n := by
  refine List.countP_mono_left fun x _ hx => ?_
  rw [hx, Bool.true_or]

theorem length_callsAmong_le (source : ByteArray) (n : Node) :
    (callsAmong source (loopLevels n)).length ≤ loopsAndCalls n := by
  rw [callsAmong, List.length_filterMap_eq_countP]
  refine List.countP_mono_left fun (m, level) _ hm => ?_
  rw [Option.isSome_ite] at hm
  rw [hm, Bool.or_true]

/-- No level is higher than there are loops. -/
theorem le_of_mem_loopLevels {body : Node} {x : Node × Nat} (hx : x ∈ loopLevels body) :
    x.2 ≤ loopsAndCalls body := by
  have hle := Node.le_of_mem_levelsOf isLevelStep_loopLevel hx
  rw [Nat.zero_add] at hle
  exact Nat.le_trans hle (countP_isLoop_le body)

/-! ### Reading the metrics off the nodes -/

namespace BodyMetrics

section Reading

variable (source : ByteArray) (name : String) (isMethod : Bool)

/-- The metrics of some nodes with their levels, each read off them for itself. -/
def reading (nodes : List (Node × Nat)) : BodyMetrics Nat :=
  let calls := callsAmong source nodes
  { maxLoopDepth := (nodes.filter fun x => isLoop x.1).foldl (fun depth x => max depth x.2) 0
    hasRecursion := calls.any fun call => call.callee.isRecursion name isMethod
    growthOps := calls.countP Call.isGrowth
    callFanout := calls.length
    expensiveCalls := Ascending.ofList (calls.filterMap fun call => call.callee.costly?)
    loopIssues := Ascending.ofList (nodes.filterMap fun x => issueAt? source x.1 x.2) }

variable {n : Node} (nodes : List (Node × Nat)) (level : Nat)

theorem callsAmong_concat : callsAmong source (nodes ++ [(n, level)]) =
    callsAmong source nodes ++ if n.kind == "call" then [⟨calleeOf source n, level⟩] else [] := by
  rw [callsAmong, List.filterMap_append]
  by_cases hcall : n.kind = "call" <;> simp [hcall, callsAmong]

/-- A further node adds to what is read off as it does to what is found. -/
theorem reading_concat : reading source name isMethod (nodes ++ [(n, level)]) =
    (reading source name isMethod nodes).visit source name isMethod n level := by
  have hloops : ((nodes ++ [(n, level)]).filter fun x => isLoop x.1) =
      (nodes.filter fun x => isLoop x.1) ++ if isLoop n then [(n, level)] else [] := by
    rw [List.filter_append]
    cases hloop : isLoop n <;> simp [hloop]
  have hissues : ((nodes ++ [(n, level)]).filterMap fun x => issueAt? source x.1 x.2) =
      (nodes.filterMap fun x => issueAt? source x.1 x.2) ++ (issueAt? source n level).toList := by
    rw [List.filterMap_append]
    cases hissue : issueAt? source n level <;> simp [hissue]
  unfold reading visit visitCall
  dsimp only
  rw [hloops, List.foldl_append, hissues, callsAmong_concat, issueAt?]
  cases hcall : n.kind == "call" with
  | false =>
    cases hconcat : isConcat n && decide (0 < level) <;> cases hloop : isLoop n <;>
      simp [Ascending.ofList_concat]
  | true =>
    cases hgrowth : (calleeOf source n).isGrowth && decide (0 < level) <;>
      cases hcostly : (calleeOf source n).costly? <;> cases hloop : isLoop n <;>
      simp [hgrowth, hcostly, Ascending.ofList_concat, Call.isGrowth]

/-- What is found in a list of nodes is what is read off them. -/
theorem foldl_visit_eq_reading :
    nodes.foldl (fun m x => visit source name isMethod x.1 x.2 m) empty =
      reading source name isMethod nodes := by
  induction nodes using List.reverseRecOn with
  | nil => rfl
  | append_singleton nodes x ih => rw [List.foldl_concat, ih, reading_concat]

variable (body : Node)

/-- **The walk over a body finds what is read off its nodes.** -/
theorem ofBody_eq_reading :
    ofBody source body name isMethod = reading source name isMethod (loopLevels body) :=
  (Node.foldLevels_eq _ _ _ _ body).trans (foldl_visit_eq_reading source name isMethod _)

end Reading

/-! ### Counters of 32 bits -/

section Width

variable {source : ByteArray} {name : String} {isMethod : Bool}

/-- The metrics with other counters. -/
def map {κ μ : Type} (f : κ → μ) (m : BodyMetrics κ) : BodyMetrics μ :=
  ⟨f m.maxLoopDepth, m.hasRecursion, f m.growthOps, f m.callFanout, m.expensiveCalls, m.loopIssues⟩

theorem zero_lt_ofNat_iff {level : Nat} (hlevel : level < UInt32.size) :
    (0 : UInt32) < .ofNat level ↔ 0 < level :=
  UInt32.ofNat_lt_iff_lt (by decide) hlevel

theorem max_ofNat {a b : Nat} (ha : a < UInt32.size) (hb : b < UInt32.size) :
    max (UInt32.ofNat a) (.ofNat b) = .ofNat (max a b) := by
  have hmax : max (UInt32.ofNat a) (.ofNat b) =
      if UInt32.ofNat a ≤ .ofNat b then .ofNat b else .ofNat a := rfl
  rw [hmax, Nat.max_def, apply_ite UInt32.ofNat]
  simp only [UInt32.ofNat_le_iff_le ha hb]

/-- A node adds the same to counters of 32 bits if it does not stand within more loops than these
can count. -/
theorem visit_ofNat {n : Node} {level : Nat} {m : BodyMetrics Nat} (hlevel : level < UInt32.size)
    (hdepth : m.maxLoopDepth < UInt32.size) :
    (m.map UInt32.ofNat).visit source name isMethod n (.ofNat level) =
      (m.visit source name isMethod n level).map UInt32.ofNat := by
  unfold visit visitCall
  simp only [zero_lt_ofNat_iff hlevel]
  have hmax := max_ofNat hdepth hlevel
  cases hcall : n.kind == "call" with
  | false =>
    cases hconcat : isConcat n && decide (0 < level) <;> cases hloop : isLoop n <;>
      simp [map, hmax]
  | true =>
    cases hgrowth : (calleeOf source n).isGrowth && decide (0 < level) <;>
      cases hloop : isLoop n <;> simp [map, hmax, UInt32.ofNat_add]

theorem maxLoopDepth_visit {n : Node} {level : Nat} {m : BodyMetrics Nat} :
    (m.visit source name isMethod n level).maxLoopDepth =
      if isLoop n then max m.maxLoopDepth level else m.maxLoopDepth := by
  simp only [visit, visitCall, apply_ite maxLoopDepth, ite_self]

theorem maxLoopDepth_visit_lt {n : Node} {level bound : Nat} {m : BodyMetrics Nat}
    (hlevel : level < bound) (hdepth : m.maxLoopDepth < bound) :
    (m.visit source name isMethod n level).maxLoopDepth < bound := by
  rw [maxLoopDepth_visit]
  split
  · exact Nat.max_lt.mpr ⟨hdepth, hlevel⟩
  · exact hdepth

theorem foldl_visit_ofNat {nodes : List (Node × Nat)} (hnodes : ∀ x ∈ nodes, x.2 < UInt32.size) :
    ∀ {m : BodyMetrics Nat}, m.maxLoopDepth < UInt32.size →
      (nodes.map (Prod.map id UInt32.ofNat)).foldl
          (fun m x => visit source name isMethod x.1 x.2 m) (m.map UInt32.ofNat) =
        (nodes.foldl (fun m x => visit source name isMethod x.1 x.2 m) m).map UInt32.ofNat := by
  induction nodes with
  | nil => exact fun _ => rfl
  | cons x nodes ih =>
    intro m hdepth
    obtain ⟨hx, hnodes⟩ := List.forall_mem_cons.mp hnodes
    rw [List.map_cons, List.foldl_cons, List.foldl_cons, Prod.map_fst, Prod.map_snd, id_eq,
      visit_ofNat hx hdepth, ih hnodes (maxLoopDepth_visit_lt hx hdepth)]

/-- **Counters of 32 bits count as natural numbers do** unless there are more loops and calls in the
body than these can count. -/
theorem ofBody_eq_map_ofNat {body : Node} (hfew : loopsAndCalls body < UInt32.size) :
    (ofBody source body name isMethod : BodyMetrics UInt32) =
      (ofBody source body name isMethod : BodyMetrics Nat).map UInt32.ofNat := by
  have hlevels : body.levelsOf loopLevel (0 : UInt32) =
      (loopLevels body).map (Prod.map id UInt32.ofNat) := by
    refine Node.levelsOf_map (f := UInt32.ofNat) fun n above => ?_
    unfold loopLevel
    split
    · exact (UInt32.ofNat_add above 1).symm
    · rfl
  have hbound : ∀ x ∈ loopLevels body, x.2 < UInt32.size :=
    fun x hx => Nat.lt_of_le_of_lt (le_of_mem_loopLevels hx) hfew
  have hempty : (empty : BodyMetrics Nat).maxLoopDepth < UInt32.size := Nat.two_pow_pos 32
  unfold ofBody
  rw [Node.foldLevels_eq, Node.foldLevels_eq, hlevels]
  exact foldl_visit_ofNat hbound hempty

end Width

end BodyMetrics

/-! ### Nodes and calls of a part -/

/-- The nodes of a part are among those of the body, within at least as many loops. -/
theorem loopLevels_of_within {part body : Node} (h : part.Within body) :
    List.SublistForall₂ Node.NotHigher (loopLevels part) (loopLevels body) :=
  Node.sublistForall₂_levelsOf isLevelStep_loopLevel h (Nat.le_refl 0)

/-- The same callee, within as many loops at most. -/
def Call.NotHigher (a b : Call) : Prop := a.callee = b.callee ∧ a.level ≤ b.level

/-- The calls of a part are among those of the body. -/
theorem callsAmong_of_within (source : ByteArray) {part body : Node} (h : part.Within body) :
    List.SublistForall₂ Call.NotHigher (callsAmong source (loopLevels part))
      (callsAmong source (loopLevels body)) := by
  refine sublistForall₂_filterMap ?_ (loopLevels_of_within h)
  rintro ⟨n, a⟩ ⟨m, b⟩ call ⟨rfl, hab⟩ hcall
  dsimp only at hcall hab ⊢
  split at hcall
  · next hkind =>
    obtain rfl := Option.some.inj hcall
    exact ⟨_, if_pos hkind, rfl, hab⟩
  · cases hcall

theorem Call.NotHigher.isGrowth {a b : Call} (h : a.NotHigher b) (ha : a.isGrowth = true) :
    b.isGrowth = true := by
  obtain ⟨hcallee, hlevel⟩ := h
  simp only [Call.isGrowth, Bool.and_eq_true, decide_eq_true_eq] at ha ⊢
  exact ⟨hcallee ▸ ha.1, Nat.lt_of_lt_of_le ha.2 hlevel⟩

/-- What is wasteful at a node is so within more loops as well. -/
theorem issueAt?_of_le {source : ByteArray} {n : Node} {a b : Nat} {issue : LoopIssue} (hab : a ≤ b)
    (h : issueAt? source n a = some issue) : issueAt? source n b = some issue := by
  simp only [issueAt?, Bool.and_eq_true, decide_eq_true_eq] at h ⊢
  split at h
  · next hcall =>
    obtain ⟨⟨hgrowth, hlevel⟩, hissue⟩ := Option.ite_none_right_eq_some.mp h
    rw [if_pos hcall, if_pos ⟨hgrowth, Nat.lt_of_lt_of_le hlevel hab⟩, hissue]
  · next hcall =>
    obtain ⟨⟨hconcat, hlevel⟩, hissue⟩ := Option.ite_none_right_eq_some.mp h
    rw [if_neg hcall, if_pos ⟨hconcat, Nat.lt_of_lt_of_le hlevel hab⟩, hissue]

theorem loopsAndCalls_le_of_within {part body : Node} (h : part.Within body) :
    loopsAndCalls part ≤ loopsAndCalls body := by
  refine countP_le_of_sublistForall₂ ?_ (loopLevels_of_within h)
  rintro ⟨n, a⟩ ⟨m, b⟩ ⟨rfl, -⟩ hn
  exact hn

/-! ### Metrics of a part -/

theorem foldl_max_le_iff {nodes : List (Node × Nat)} {bound : Nat} : ∀ {depth : Nat},
    nodes.foldl (fun depth x => max depth x.2) depth ≤ bound ↔
      depth ≤ bound ∧ ∀ x ∈ nodes, x.2 ≤ bound := by
  induction nodes with
  | nil => intro depth; simp
  | cons x nodes ih =>
    intro depth
    rw [List.foldl_cons, ih, Nat.max_le, List.forall_mem_cons, and_assoc]

namespace BodyMetrics

/-- Metrics that are at least others in everything but recursion. -/
structure Dominates (a b : BodyMetrics Nat) : Prop where
  loops : b.maxLoopDepth ≤ a.maxLoopDepth
  growth : b.growthOps ≤ a.growthOps
  calls : b.callFanout ≤ a.callFanout
  costly : b.expensiveCalls ⊆ a.expensiveCalls
  issues : b.loopIssues ⊆ a.loopIssues

section OfBody

variable {source : ByteArray} {body : Node} {name : String} {isMethod : Bool}

/-- The depth of loops is a bound of the levels of all nodes. -/
theorem maxLoopDepth_le_iff {bound : Nat} :
    (ofBody source body name isMethod).maxLoopDepth ≤ bound ↔
      ∀ x ∈ loopLevels body, x.2 ≤ bound := by
  rw [ofBody_eq_reading]
  refine foldl_max_le_iff.trans ((and_iff_right (Nat.zero_le bound)).trans ?_)
  constructor
  · intro h x hx
    rcases Node.exists_raises_of_mem_levelsOf isLevelStep_loopLevel hx with
      hle | ⟨y, hy, hloop, hle⟩
    · exact Nat.le_trans hle (Nat.zero_le bound)
    · exact Nat.le_trans hle (h y (List.mem_filter.mpr ⟨hy, hloop⟩))
  · exact fun h x hx => h x (List.mem_of_mem_filter hx)

theorem growthOps_eq_countP : (ofBody source body name isMethod).growthOps =
    (callsAmong source (loopLevels body)).countP Call.isGrowth := by
  rw [ofBody_eq_reading, reading]

theorem callFanout_eq_length : (ofBody source body name isMethod).callFanout =
    (callsAmong source (loopLevels body)).length := by
  rw [ofBody_eq_reading, reading]

theorem mem_expensiveCalls {costly : String} :
    costly ∈ (ofBody source body name isMethod).expensiveCalls ↔
      ∃ call ∈ callsAmong source (loopLevels body), call.callee.costly? = some costly := by
  rw [ofBody_eq_reading]
  refine (Ascending.mem_ofList ?_).trans List.mem_filterMap
  intro a b hab hba
  exact String.le_antisymm hba hab

theorem mem_loopIssues {issue : LoopIssue} :
    issue ∈ (ofBody source body name isMethod).loopIssues ↔
      ∃ x ∈ loopLevels body, issueAt? source x.1 x.2 = some issue := by
  rw [ofBody_eq_reading]
  refine (Ascending.mem_ofList ?_).trans List.mem_filterMap
  intro a b
  cases a <;> cases b <;> decide

end OfBody

/-- The metrics of a body dominate those of its parts. -/
theorem dominates_of_within {source : ByteArray} {part body : Node} (h : part.Within body)
    (name name' : String) (isMethod isMethod' : Bool) :
    (ofBody source body name isMethod).Dominates (ofBody source part name' isMethod') := by
  have hnodes := loopLevels_of_within h
  have hcalls := callsAmong_of_within source h
  refine ⟨?_, ?_, ?_, ?_, ?_⟩
  · refine maxLoopDepth_le_iff.mpr fun x hx => ?_
    obtain ⟨y, hy, -, hle⟩ := exists_mem_of_sublistForall₂ hnodes hx
    exact Nat.le_trans hle (maxLoopDepth_le_iff.mp (Nat.le_refl _) y hy)
  · rw [growthOps_eq_countP, growthOps_eq_countP]
    exact countP_le_of_sublistForall₂ (fun hab => hab.isGrowth) hcalls
  · rw [callFanout_eq_length, callFanout_eq_length]
    exact length_le_of_sublistForall₂ hcalls
  · intro costly hcostly
    rw [mem_expensiveCalls] at hcostly ⊢
    obtain ⟨a, ha, hcall⟩ := hcostly
    obtain ⟨b, hb, hcallee, -⟩ := exists_mem_of_sublistForall₂ hcalls ha
    exact ⟨b, hb, hcallee ▸ hcall⟩
  · intro issue hissue
    rw [mem_loopIssues] at hissue ⊢
    obtain ⟨⟨n, level⟩, hx, hin⟩ := hissue
    obtain ⟨⟨m, level'⟩, hy, rfl, hlevel⟩ := exists_mem_of_sublistForall₂ hnodes hx
    exact ⟨(n, level'), hy, issueAt?_of_le hlevel hin⟩

/-- Loops are not nested deeper than there are loops, and there are no more calls, growing ones or
others, than there are calls. -/
theorem bounds (source : ByteArray) (body : Node) (name : String) (isMethod : Bool) :
    (ofBody source body name isMethod).maxLoopDepth ≤ loopsAndCalls body ∧
      (ofBody source body name isMethod).growthOps ≤ loopsAndCalls body ∧
      (ofBody source body name isMethod).callFanout ≤ loopsAndCalls body := by
  have hcalls := length_callsAmong_le source body
  refine ⟨maxLoopDepth_le_iff.mpr fun x => le_of_mem_loopLevels, ?_, ?_⟩
  · rw [growthOps_eq_countP]
    exact Nat.le_trans List.countP_le_length hcalls
  · rw [callFanout_eq_length]
    exact hcalls

end BodyMetrics

end Python

end EnergyAudit
