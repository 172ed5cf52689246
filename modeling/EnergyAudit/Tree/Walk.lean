import EnergyAudit.Tree.Node

/-!
# Walking a tree

All nodes of a tree, each with the nodes above it and the one before it.  A node comes before its
descendants, and of the children of a node the last comes first with all its descendants.

## Main definitions

* `Visit` — a node with its surroundings.
* `Visit.children` — the visits of a node's children.
* `Node.visits` — the visits of all nodes of a tree.
* `Node.foldLevels` — a value that takes in all nodes, each with a level that depends on the nodes
  above.
-/

namespace EnergyAudit.Tree

namespace Node

mutual

/-- The number of nodes of a tree. -/
def count : Node → Nat
  | mk _ children => countAll children + 1

/-- The number of nodes of several trees. -/
def countAll : List Node → Nat
  | [] => 0
  | n :: rest => n.count + countAll rest

end

@[simp] theorem countAll_nil : countAll [] = 0 := by simp [countAll]

@[simp] theorem countAll_cons (n : Node) (rest : List Node) :
    countAll (n :: rest) = n.count + countAll rest := by simp [countAll]

theorem count_eq (n : Node) : n.count = countAll n.children + 1 := by
  cases n
  simp [count, children]

theorem countAll_append (xs ys : List Node) : countAll (xs ++ ys) = countAll xs + countAll ys := by
  induction xs with
  | nil => simp
  | cons n rest ih => simp [ih, Nat.add_assoc]

theorem countAll_reverse (xs : List Node) : countAll xs.reverse = countAll xs := by
  induction xs with
  | nil => rfl
  | cons n rest ih => simp [countAll_append, ih, Nat.add_comm]

end Node

/-- A node with its surroundings. -/
structure Visit where
  node : Node
  /-- The nodes above it, the closest first. -/
  ancestors : List Node
  /-- The child of the same parent before it. -/
  previous : Option Node

namespace Visit

/-- The node that the visited node is a child of. -/
def parent? (v : Visit) : Option Node := v.ancestors.head?

/-- Visits of nodes with common ancestors, each after the one before it. -/
def siblings (ancestors : List Node) : Option Node → List Node → List Visit
  | _, [] => []
  | previous, n :: rest => ⟨n, ancestors, previous⟩ :: siblings ancestors (some n) rest

/-- The visits of the children of the visited node, in the order of the text. -/
def children (v : Visit) : List Visit := siblings (v.node :: v.ancestors) none v.node.children

@[simp] theorem map_node_siblings (ancestors : List Node) (previous : Option Node)
    (nodes : List Node) : (siblings ancestors previous nodes).map Visit.node = nodes := by
  induction nodes generalizing previous with
  | nil => rfl
  | cons n rest ih => simp [siblings, ih]

@[simp] theorem map_node_children (v : Visit) : v.children.map Visit.node = v.node.children := by
  simp [children]

/-- Visits all nodes of a work list and below, in front of what has been visited so far. -/
def walk (work : List Visit) (seen : Array Visit) : Array Visit :=
  match work with
  | [] => seen
  | v :: rest => walk (v.children.reverse ++ rest) (seen.push v)
termination_by Node.countAll (work.map Visit.node)
decreasing_by
  simp only [List.map_append, List.map_reverse, map_node_children, Node.countAll_append,
    Node.countAll_reverse, List.map_cons, Node.countAll_cons, Node.count_eq]
  omega

end Visit

namespace Node

/-- The visits of all nodes of a tree. -/
def visits (root : Node) : Array Visit := Visit.walk [⟨root, [], none⟩] #[]

/-- Takes all nodes of a work list and below into a value, each with its level: `step` gives the
level of a node from that of the node above. -/
def foldLevelsFrom {κ σ : Type} (step : Node → κ → κ) (take : Node → κ → σ → σ)
    (work : List (Node × κ)) (value : σ) : σ :=
  match work with
  | [] => value
  | (n, above) :: rest =>
    let level := step n above
    foldLevelsFrom step take ((n.children.map fun child => (child, level)).reverse ++ rest)
      (take n level value)
termination_by countAll (work.map Prod.fst)
decreasing_by
  simp only [List.map_append, List.map_reverse, List.map_map, Function.comp_def, List.map_id',
    countAll_append, countAll_reverse, List.map_cons, countAll_cons, count_eq]
  omega

/-- Takes all nodes of a tree into a value, where the level above the root is given. -/
def foldLevels {κ σ : Type} (step : Node → κ → κ) (take : Node → κ → σ → σ) (above : κ) (value : σ)
    (root : Node) : σ :=
  foldLevelsFrom step take [(root, above)] value

end Node

end EnergyAudit.Tree
