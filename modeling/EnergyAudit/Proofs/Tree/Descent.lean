import EnergyAudit.Proofs.Tree.Tour
import Mathlib.Data.List.Chain
import Mathlib.Data.List.Induction

/-!
# Ways down a tree

A node of a tree is reached from the root by going on from a node to one of its children.  Every
such way is that of a visited node, and what a visit says is above the node is on the way to it.

## Main definitions

* `Node.IsDescent` — a way down a tree, from the root on.

## Main results

* `Node.mem_tour_of_mem_children` — the children of visited nodes are visited.
* `Node.isDescent_iff` — the ways down a tree are those to visited nodes.
-/

namespace EnergyAudit.Tree

namespace Node

/-- A way down a tree: it starts at the root, and each further node is a child of the one before. -/
def IsDescent (root : Node) (way : List Node) : Prop :=
  way.head? = some root ∧ way.IsChain fun parent n => n ∈ parent.children

theorem mem_tourFrom_of_mem_children (n : Node) : ∀ {u v c : Visit}, u.node = n →
    v ∈ u.node.tourFrom u.ancestors u.previous → c ∈ v.children →
      c ∈ u.node.tourFrom u.ancestors u.previous := by
  induction n using inductionOn with
  | h n ih =>
    rintro u v c rfl hv hc
    rw [tourFrom_eq] at hv ⊢
    refine List.mem_cons_of_mem _ (List.mem_flatMap.mpr ?_)
    rcases List.mem_cons.mp hv with rfl | hv
    · refine ⟨c, List.mem_reverse.mpr hc, ?_⟩
      rw [tourFrom_eq]
      exact List.mem_cons_self
    · obtain ⟨d, hd, hv⟩ := List.mem_flatMap.mp hv
      exact ⟨d, hd, ih d.node (Visit.node_mem_children (List.mem_reverse.mp hd)) rfl hv hc⟩

/-- The children of visited nodes are visited. -/
theorem mem_tour_of_mem_children {root : Node} {v c : Visit} (hv : v ∈ root.tour)
    (hc : c ∈ v.children) : c ∈ root.tour :=
  mem_tourFrom_of_mem_children root (u := ⟨root, [], none⟩) rfl hv hc

theorem IsDescent.exists_mem_tour {root : Node} {way : List Node} (h : root.IsDescent way) :
    ∃ v ∈ root.tour, way = v.path.reverse := by
  -- The way is followed from its last node back to the root.
  induction way using List.reverseRecOn with
  | nil => cases h.1
  | append_singleton above n ih =>
    obtain ⟨hroot, hchain⟩ := h
    obtain ⟨habove, -, hchild⟩ := List.isChain_append.mp hchain
    cases above with
    | nil =>
      obtain rfl : n = root := Option.some.inj hroot
      exact ⟨⟨n, [], none⟩, mem_tour_root n, rfl⟩
    | cons m above =>
      obtain ⟨v, hv, hway⟩ := ih ⟨hroot, habove⟩
      have hlast : (m :: above).getLast? = some v.node := by
        rw [hway, List.getLast?_reverse]
        rfl
      have hn : n ∈ v.node.children := hchild v.node hlast n rfl
      rw [← Visit.map_node_children] at hn
      obtain ⟨c, hc, rfl⟩ := List.mem_map.mp hn
      refine ⟨c, mem_tour_of_mem_children hv hc, ?_⟩
      rw [hway, Visit.path, Visit.path, Visit.ancestors_of_mem_children hc, List.reverse_cons,
        List.reverse_cons, List.reverse_cons]

/-- The ways down a tree are those to visited nodes. -/
theorem isDescent_iff {root : Node} {way : List Node} :
    root.IsDescent way ↔ ∃ v ∈ root.tour, way = v.path.reverse := by
  refine ⟨IsDescent.exists_mem_tour, ?_⟩
  rintro ⟨v, hv, rfl⟩
  have hroot : [root] <:+ v.path :=
    path_suffix_of_mem_tourFrom root (v := ⟨root, [], none⟩) rfl hv
  rw [← visits_eq_tour, Array.mem_toList_iff] at hv
  refine ⟨?_, List.isChain_reverse.mpr (isPath_of_mem_visits hv)⟩
  obtain ⟨below, hbelow⟩ := hroot
  rw [List.head?_reverse, ← hbelow, List.getLast?_append]
  rfl

end Node

end EnergyAudit.Tree
