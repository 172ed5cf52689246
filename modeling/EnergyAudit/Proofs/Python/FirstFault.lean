import EnergyAudit.Proofs.Tree.Walk
import EnergyAudit.Python.Source

/-!
# The first fault of a tree

The search for a fault goes down from the root.  At a fault it ends; from any other node it goes on
to the first child that is a fault or says that there is an error in it.  If the nodes are right in
what they say, the search is never without such a child before it has come to a fault, and then this
is the first one in the order of the text, since there is none in what was passed over.

## Main definitions

* `Node.next?` — where the search goes on from a node.
* `Node.Descends` — a search that goes down from one node and ends at another.
* `Node.NotesFaults` — the nodes of a tree say where its faults are.

## Main results

* `Node.descends_iff` — every search ends, and at one node.
* `Node.find?_isFault_nodes`, `Node.firstFault?_eq_find?` — the search finds the first fault.
* `Python.first_fault_reported` — **the error of a tree is that of its first fault.**
-/

namespace EnergyAudit

open EnergyAudit.Tree

namespace Tree.Node

variable {n m root : Node}

/-! ### Going down -/

/-- Whether a node is a fault or says that there is an error in it. -/
def isFlagged (n : Node) : Bool := n.isFault || n.info.hasError

/-- Where the search goes on from a node: nowhere from a fault or if no child is flagged. -/
def next? (n : Node) : Option Node := if n.isFault then none else n.children.find? isFlagged

theorem mem_children_of_next?_eq_some {c : Node} (h : n.next? = some c) : c ∈ n.children := by
  rw [next?, Option.ite_none_left_eq_some] at h
  exact List.mem_of_find?_eq_some h.2

theorem descendAmong_eq (nodes : List Node) :
    descendAmong nodes = (nodes.find? isFlagged).map descend := by
  induction nodes with
  | nil => rw [descendAmong, List.find?_nil, Option.map_none]
  | cons c rest ih =>
    rw [descendAmong, List.find?_cons, ih, isFlagged]
    cases c.isFault || c.info.hasError <;> rfl

theorem descend_eq (n : Node) : n.descend = (n.next?.map descend).getD n := by
  cases n with
  | mk info children =>
    rw [descend, descendAmong_eq, next?, isFault, Node.info, Node.children]
    split <;> rfl

/-- A search goes down from one node, step by step, and ends at another. -/
inductive Descends : Node → Node → Prop
  | here {n : Node} : n.next? = none → Descends n n
  | down {n c last : Node} : n.next? = some c → Descends c last → Descends n last

/-- Every search ends. -/
theorem descends_descend (n : Node) : n.Descends n.descend := by
  induction n using inductionOn with
  | h n ih =>
    rw [descend_eq]
    cases hnext : n.next? with
    | none => exact .here hnext
    | some c => exact .down hnext (ih c (mem_children_of_next?_eq_some hnext))

/-- Every search ends, and at one node. -/
theorem descends_iff : n.Descends m ↔ m = n.descend := by
  constructor
  · intro h
    induction h with
    | here hnext => rw [descend_eq, hnext, Option.map_none, Option.getD_none]
    | @down n c last hnext _ ih => rw [descend_eq n, hnext, Option.map_some, Option.getD_some, ih]
  · rintro rfl
    exact n.descends_descend

/-! ### What the nodes say -/

/-- The nodes of a tree say where its faults are.  A node that is no fault says that there is an
error in it just if there is a fault below it; of the faults, only one at the root must say so. -/
structure NotesFaults (root : Node) : Prop where
  atRoot : root.isFault = true → root.info.hasError = true
  within : ∀ n ∈ root.nodes, n.isFault = false →
    (n.info.hasError = true ↔ ∃ m ∈ n.nodes, m.isFault = true)

/-- It is enough that a node says so just if it is a fault or there is one below it. -/
theorem NotesFaults.of_forall
    (h : ∀ n ∈ root.nodes, (n.info.hasError = true ↔ ∃ m ∈ n.nodes, m.isFault = true)) :
    root.NotesFaults where
  atRoot hfault := (h root root.mem_nodes_self).mpr ⟨root, root.mem_nodes_self, hfault⟩
  within n hn _ := h n hn

/-! ### The first fault -/

/-- If the search finds the first fault below each of some neighbours, then it finds the first one
below all of them when it goes on to the first that is flagged. -/
theorem find?_isFault_flatMap {ns : List Node}
    (h : ∀ c ∈ ns, c.nodes.find? isFault = if c.isFlagged then some c.descend else none) :
    (ns.flatMap nodes).find? isFault = (ns.find? isFlagged).map descend := by
  induction ns with
  | nil => rfl
  | cons c ns ih =>
    have hrest := ih fun d hd => h d (List.mem_cons_of_mem _ hd)
    rw [List.flatMap_cons, List.find?_append, h c List.mem_cons_self, hrest, List.find?_cons]
    cases c.isFlagged <;> rfl

/-- The search finds the first fault below a flagged node, and there is none below any other. -/
theorem find?_isFault_nodes (n : Node) :
    (∀ m ∈ n.nodes, m.isFault = false →
      (m.info.hasError = true ↔ ∃ k ∈ m.nodes, k.isFault = true)) →
      n.nodes.find? isFault = if n.isFlagged then some n.descend else none := by
  induction n using inductionOn with
  | h n ih =>
    intro hnotes
    have hchildren : (n.children.flatMap nodes).find? isFault =
        (n.children.find? isFlagged).map descend :=
      find?_isFault_flatMap fun c hc =>
        ih c hc fun m hm => hnotes m (mem_nodes_of_mem_children hc hm)
    cases hfault : n.isFault with
    | true =>
      rw [nodes_eq, List.find?_cons, hfault, descend_eq, next?, isFlagged, hfault]
      rfl
    | false =>
      have hn := hnotes n n.mem_nodes_self hfault
      have hnodes : n.nodes.find? isFault = (n.children.find? isFlagged).map descend := by
        rw [nodes_eq, List.find?_cons, hfault, hchildren]
      have hnext : n.next? = n.children.find? isFlagged := by
        rw [next?, hfault, if_neg Bool.false_ne_true]
      rw [hnodes, descend_eq, hnext, isFlagged, hfault, Bool.false_or]
      cases hfind : n.children.find? isFlagged with
      | none =>
        -- There is no fault, so the node must not say that there is an error.
        rw [hfind, Option.map_none, List.find?_eq_none] at hnodes
        have herror : ¬ n.info.hasError = true := fun h => by
          obtain ⟨m, hm, hmfault⟩ := hn.mp h
          exact hnodes m hm hmfault
        rw [if_neg herror, Option.map_none]
      | some c =>
        -- There is a fault, so the node must say so.
        rw [hfind, Option.map_some] at hnodes
        have herror : n.info.hasError = true :=
          hn.mpr ⟨c.descend, List.mem_of_find?_eq_some hnodes, List.find?_some hnodes⟩
        rw [if_pos herror, Option.map_some, Option.getD_some]

/-- The search finds the first fault of a tree. -/
theorem firstFault?_eq_find? (h : root.NotesFaults) :
    root.firstFault? = root.nodes.find? isFault := by
  have hflagged : root.isFlagged = root.info.hasError := by
    cases hfault : root.isFault with
    | true => rw [isFlagged, hfault, h.atRoot hfault, Bool.or_true]
    | false => rw [isFlagged, hfault, Bool.false_or]
  rw [find?_isFault_nodes root h.within, hflagged, firstFault?]

end Tree.Node

/-! ### The error of a tree -/

namespace Python

/-- **The error of a tree is that of its first fault.**  There is an error just if some node is a
fault, and it is at the line and the column, counted from one, of the first fault in the order in
which a node comes before its children and these come one after the other.  The search for it comes
to an end, and what it reports is the node where it ends and a fault. -/
theorem first_fault_reported (p : ParsedSource) (h : p.root.NotesFaults) :
    ((faultIn? p).isSome = true ↔ ∃ n ∈ p.root.nodes, n.isFault = true) ∧
      (∀ before fault after, p.root.nodes = before ++ fault :: after →
        (∀ n ∈ before, n.isFault = false) → fault.isFault = true →
          p.root.Descends fault ∧
            faultIn? p = some (.rejected (fault.info.start.row + 1) (fault.info.start.column + 1)
              (complaintAt p.source fault).message)) ∧
      ∃ last, p.root.Descends last ∧
        ∀ n, p.root.firstFault? = some n → n = last ∧ n.isFault = true := by
  have hfirst : p.root.firstFault? = p.root.nodes.find? Node.isFault :=
    Node.firstFault?_eq_find? h
  have hlast : ∀ n, p.root.firstFault? = some n → n = p.root.descend := by
    intro n hn
    rw [Node.firstFault?, Option.ite_none_right_eq_some] at hn
    exact (Option.some.inj hn.2).symm
  refine ⟨?_, fun before fault after hnodes hbefore hfault => ?_, p.root.descend,
    p.root.descends_descend, fun n hn => ⟨hlast n hn, ?_⟩⟩
  · rw [faultIn?, Option.isSome_map, hfirst, List.find?_isSome]
  · have hfound : p.root.firstFault? = some fault := by
      rw [hfirst, List.find?_eq_some_iff_append]
      refine ⟨hfault, before, after, hnodes, fun n hn => ?_⟩
      rw [hbefore n hn, Bool.not_false]
    refine ⟨Node.descends_iff.mpr (hlast fault hfound), ?_⟩
    rw [faultIn?, hfound, Option.map_some]
  · rw [hfirst] at hn
    exact List.find?_some hn

/-! ### A bracket that is missing -/

namespace OpenCall

/-- A node on one row of the text, from one column up to another, which starts at a byte. -/
def node (kind : String) (isNamed : Bool) (field : Option String) (byte row start stop : Nat)
    (hasError : Bool) (children : List Node) : Node :=
  .mk ⟨kind, isNamed, field, ⟨byte, row, start⟩, ⟨byte + (stop - start), row, stop⟩, false, false,
    hasError⟩ children

/-- What stands for the bracket that is missing. -/
def bracket : Node :=
  .mk ⟨")", false, none, ⟨6, 0, 6⟩, ⟨6, 0, 6⟩, false, true, true⟩ []

/-- A condition in which a call is not closed, and a statement with a name too many. -/
def parsed : ParsedSource :=
  ⟨"if f(a:\n  c = d e\n".toUTF8,
    .mk ⟨"module", true, none, ⟨0, 0, 0⟩, ⟨18, 2, 0⟩, false, false, true⟩
      [.mk ⟨"if_statement", true, none, ⟨0, 0, 0⟩, ⟨17, 1, 9⟩, false, false, true⟩
        [node "if" false none 0 0 0 2 false [],
          node "call" true (some "condition") 3 0 3 6 true
            [node "identifier" true (some "function") 3 0 3 4 false [],
              node "argument_list" true (some "arguments") 4 0 4 6 true
                [node "(" false none 4 0 4 5 false [],
                  node "identifier" true none 5 0 5 6 false [], bracket]],
          node ":" false none 6 0 6 7 false [],
          node "block" true (some "consequence") 10 1 2 9 true
            [node "expression_statement" true none 10 1 2 9 true
              [node "assignment" true none 10 1 2 9 true
                [node "identifier" true (some "left") 10 1 2 3 false [],
                  node "=" false none 12 1 4 5 false [],
                  .mk ⟨"ERROR", true, none, ⟨14, 1, 6⟩, ⟨15, 1, 7⟩, true, false, true⟩
                    [node "identifier" true none 14 1 6 7 false []],
                  node "identifier" true (some "right") 16 1 8 9 false []]]]]]⟩

/-- The bracket is reported, and not the name that comes later. -/
theorem first_fault_reported_bracket :
    parsed.root.NotesFaults ∧ parsed.root.Descends bracket ∧
      faultIn? parsed = some (.rejected 1 7 "missing `)`") := by
  have hnotes : parsed.root.NotesFaults := .of_forall (by decide +kernel)
  have hnodes : parsed.root.nodes =
      parsed.root.nodes.take 8 ++ bracket :: parsed.root.nodes.drop 9 := rfl
  have hbefore : ∀ n ∈ parsed.root.nodes.take 8, n.isFault = false := by decide +kernel
  obtain ⟨-, hfirst, -⟩ := first_fault_reported parsed hnotes
  obtain ⟨hdescends, hfault⟩ := hfirst _ bracket _ hnodes hbefore rfl
  exact ⟨hnotes, hdescends, hfault⟩

end OpenCall

end Python

end EnergyAudit
