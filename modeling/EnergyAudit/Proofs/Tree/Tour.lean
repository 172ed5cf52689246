import EnergyAudit.Proofs.Split
import EnergyAudit.Proofs.Tree.Walk

/-!
# Tours of trees

The order in which the nodes of a tree are visited, told by recursion on the tree: a node comes
before everything below it, and of its children the last comes first with everything below it.  The
walks over work lists keep to this order, and what they note of a node depends on the path to it.

## Main definitions

* `Node.tour` — the visits of all nodes of a tree.
* `Visit.path` — the path from a visited node up to the root.

## Main results

* `Node.visits_eq_tour` — the walk over a tree is its tour.
* `Node.levels_eq_tour` — the level of a node comes from the path to it.
* `Node.exists_before_of_ancestors` — the nodes above a node come before it.
-/

namespace EnergyAudit.Tree

/-- The path from the visited node up to the root, the node first. -/
def Visit.path (v : Visit) : List Node := v.node :: v.ancestors

namespace Node

mutual

/-- The visits of a node and of everything below it: the node, and then its children. -/
def tourFrom (ancestors : List Node) (previous : Option Node) : Node → List Visit
  | mk info children =>
    ⟨mk info children, ancestors, previous⟩ ::
      tourAmong (mk info children :: ancestors) none children

/-- The visits of neighbours and of everything below them: the later ones come first. -/
def tourAmong (ancestors : List Node) (previous : Option Node) : List Node → List Visit
  | [] => []
  | n :: rest => tourAmong ancestors (some n) rest ++ n.tourFrom ancestors previous

end

/-- The visits of all nodes of a tree: every node before everything below it, and of its children
the last one first. -/
def tour (root : Node) : List Visit := root.tourFrom [] none

/-! ### The order of the walk -/

theorem tourAmong_eq (nodes : List Node) :
    ∀ (ancestors : List Node) (previous : Option Node), tourAmong ancestors previous nodes =
      (Visit.siblings ancestors previous nodes).reverse.flatMap fun v =>
        v.node.tourFrom v.ancestors v.previous := by
  induction nodes with
  | nil =>
    intro ancestors previous
    rw [tourAmong, Visit.siblings, List.reverse_nil, List.flatMap_nil]
  | cons n rest ih =>
    intro ancestors previous
    rw [tourAmong, ih, Visit.siblings, List.reverse_cons, List.flatMap_append,
      List.flatMap_singleton]

/-- What is visited from one node on: the node itself, and then its children, the last one first. -/
theorem tourFrom_eq (v : Visit) : v.node.tourFrom v.ancestors v.previous =
    v :: v.children.reverse.flatMap fun c => c.node.tourFrom c.ancestors c.previous := by
  obtain ⟨⟨info, children⟩, ancestors, previous⟩ := v
  rw [tourFrom, tourAmong_eq]
  rfl

theorem below_eq_tourFrom (n : Node) :
    ∀ {v : Visit}, v.node = n → v.below = v.node.tourFrom v.ancestors v.previous := by
  induction n using inductionOn with
  | h n ih =>
    rintro v rfl
    rw [Visit.below_eq, tourFrom_eq]
    congr 1
    refine List.flatMap_congr fun c hc => ?_
    exact ih c.node (Visit.node_mem_children (List.mem_reverse.mp hc)) rfl

/-- **The walk over a tree is its tour.** -/
theorem visits_eq_tour (root : Node) : root.visits.toList = root.tour :=
  below_eq_tourFrom root (v := ⟨root, [], none⟩) rfl

theorem levelsOf_eq_tourFrom (step : Node → Nat → Nat) (n : Node) : ∀ {v : Visit}, v.node = n →
    v.node.levelsOf step (v.ancestors.foldr step 0) =
      (v.node.tourFrom v.ancestors v.previous).map fun w => (w.node, w.path.foldr step 0) := by
  induction n using inductionOn with
  | h n ih =>
    rintro v rfl
    rw [levelsOf_eq, tourFrom_eq, List.map_cons, List.map_flatMap]
    congr 1
    rw [← Visit.map_node_children, ← List.map_reverse, List.flatMap_map]
    refine List.flatMap_congr fun c hc => ?_
    rw [List.mem_reverse] at hc
    rw [← ih c.node (Visit.node_mem_children hc) rfl, Visit.ancestors_of_mem_children hc]
    rfl

/-- **The level of a node comes from the path to it**: the step is made at every node on it, from
the root on. -/
theorem levels_eq_tour (step : Node → Nat → Nat) (root : Node) :
    root.levelsOf step 0 = root.tour.map fun v => (v.node, v.path.foldr step 0) :=
  levelsOf_eq_tourFrom step root (v := ⟨root, [], none⟩) rfl

/-! ### What comes before a node -/

/-- A tour starts at the root. -/
theorem mem_tour_root (root : Node) : (⟨root, [], none⟩ : Visit) ∈ root.tour := by
  rw [tour, tourFrom_eq ⟨root, [], none⟩]
  exact List.mem_cons_self

/-- Everything visited from a node on has that node and those above it at the end of its path. -/
theorem path_suffix_of_mem_tourFrom (n : Node) : ∀ {v w : Visit}, v.node = n →
    w ∈ v.node.tourFrom v.ancestors v.previous → v.path <:+ w.path := by
  induction n using inductionOn with
  | h n ih =>
    rintro v w rfl hw
    rw [tourFrom_eq] at hw
    rcases List.mem_cons.mp hw with rfl | hw
    · exact List.suffix_refl _
    · obtain ⟨c, hc, hw⟩ := List.mem_flatMap.mp hw
      rw [List.mem_reverse] at hc
      have hpath : c.path = c.node :: v.path := by
        rw [Visit.path, Visit.ancestors_of_mem_children hc, Visit.path]
      have hsuffix := ih c.node (Visit.node_mem_children hc) rfl hw
      rw [hpath] at hsuffix
      exact (List.suffix_cons _ _).trans hsuffix

theorem exists_before_of_mem_tourFrom (n : Node) : ∀ {v w : Visit} {before after path : List _},
    v.node = n → v.node.tourFrom v.ancestors v.previous = before ++ w :: after →
      v.path <:+ path → path <:+ w.ancestors → ∃ u ∈ before, u.path = path := by
  induction n using inductionOn with
  | h n ih =>
    rintro v w before after path rfl htour hv hw
    rw [tourFrom_eq] at htour
    cases before with
    | nil =>
      obtain ⟨rfl, -⟩ := List.cons.inj htour
      have hlength := (hv.trans hw).length_le
      rw [Visit.path, List.length_cons] at hlength
      exact absurd hlength (Nat.not_succ_le_self _)
    | cons u before =>
      rw [List.cons_append] at htour
      obtain ⟨rfl, hrest⟩ := List.cons.inj htour
      obtain ⟨former, c, later, here, others, hsplit, hc, rfl, -⟩ := flatMap_eq_append_cons hrest
      have hmem : c ∈ v.children :=
        List.mem_reverse.mp (hsplit ▸ List.mem_append_right _ List.mem_cons_self)
      have hchild := Visit.node_mem_children hmem
      have hpath : c.path = c.node :: v.path := by
        rw [Visit.path, Visit.ancestors_of_mem_children hmem, Visit.path]
      have hcw : c.path <:+ w.path :=
        path_suffix_of_mem_tourFrom c.node rfl (hc ▸ List.mem_append_right _ List.mem_cons_self)
      -- The path ends at the node itself, or it goes on into the child that the visit comes from.
      have hcases : path = v.path ∨ c.path <:+ path := by
        rcases List.suffix_or_suffix_of_suffix hcw (hw.trans (List.suffix_cons w.node _)) with h | h
        · exact .inr h
        · rw [hpath] at h ⊢
          rcases List.suffix_cons_iff.mp h with rfl | h
          · exact .inr (List.suffix_refl _)
          · exact .inl (h.eq_of_length_le hv.length_le)
      rcases hcases with rfl | hcpath
      · exact ⟨v, List.mem_cons_self, rfl⟩
      · obtain ⟨u, hu, hupath⟩ := ih c.node hchild rfl hc hcpath hw
        exact ⟨u, List.mem_cons_of_mem _ (List.mem_append_right _ hu), hupath⟩

/-- The nodes above a node come before it. -/
theorem exists_before_of_ancestors {root : Node} {v : Visit} {before after : List Visit}
    (htour : root.tour = before ++ v :: after) {n : Node} {above : List Node}
    (h : n :: above <:+ v.ancestors) : ∃ u ∈ before, u.path = n :: above := by
  have hv : v ∈ root.tour := htour ▸ List.mem_append_right _ List.mem_cons_self
  have hroot : [root] <:+ v.path :=
    path_suffix_of_mem_tourFrom root (v := ⟨root, [], none⟩) rfl hv
  have hn : [root] <:+ n :: above := by
    rcases List.suffix_or_suffix_of_suffix hroot (h.trans (List.suffix_cons v.node _)) with h | h
    · exact h
    · have heq : n :: above = [root] := h.eq_of_length_le (by simp)
      exact heq ▸ List.suffix_refl _
  exact exists_before_of_mem_tourFrom root (v := ⟨root, [], none⟩) rfl htour hn h

end Node

end EnergyAudit.Tree
