import EnergyAudit.Grammar.Confusion

/-!
# Merging states

States with the same core differ only in the tokens that may follow.  They are merged where no
token is treated differently by them and no token of one could be confused with a token of the
other.  Afterwards states that do nothing but rename one hidden node are bypassed.

## Main definitions

* `Partition.ofAutomaton` — the groups of states to merge.
* `Automaton.merged` — the automaton whose states are the groups.
* `Automaton.withoutRenamings` — the automaton without the states that only rename a node.
* `Automaton.compact` — both, with the actions of error recovery.
-/

namespace EnergyAudit.Grammar

/-- Groups of states, and the group that each state is in. -/
structure Partition where
  groups : Array (List Nat)
  groupOf : Array Nat

namespace Partition

variable (p : Partition)

/-- The group of a state. -/
def group (state : Nat) : Nat := p.groupOf[state]?.getD 0

/-- One group for each core. -/
def byCore (states : Array State) : Partition :=
  let count := states.foldl (fun m s => max m (s.core + 1)) 0
  let groups := states.zipIdx.foldl (fun groups (s, number) => groups.modify s.core (number :: ·))
    (Array.replicate count [])
  ⟨groups.map List.reverse, states.map State.core⟩

/-- Whether two actions do the same, states of one group counting as one. -/
def sameAction : Action → Action → Bool
  | .shift s r, .shift t q => p.group s == p.group t && r == q
  | a, b => a == b

/-- Whether two lists of actions do the same. -/
def sameActions : List Action → List Action → Bool
  | [], [] => true
  | a :: as, b :: bs => p.sameAction a b && sameActions as bs
  | _, _ => false

/-- Splits one group: a state stays if it is apart from none that stay before it, and the others
make up a new group at the end.  Says whether there are any others. -/
def splitGroup (apart : Nat → Nat → Bool) (number : Nat) : Partition × Bool :=
  let members := p.groups[number]?.getD []
  let kept := members.foldl (fun kept s => if kept.any (apart · s) then kept else kept ++ [s]) []
  if kept.length == members.length then (p, false)
  else
    let others := members.filter fun s => !kept.contains s
    let fresh := p.groups.size
    (⟨(p.groups.setIfInBounds number kept).push others,
      others.foldl (fun groups s => groups.setIfInBounds s fresh) p.groupOf⟩, true)

/-- Splits all groups, also those that arise on the way, whose number is bounded by that of the
states. -/
def split (apart : Partition → Nat → Nat → Bool) : Partition × Bool := Id.run do
  let mut current := p
  let mut changed := false
  for number in [0:p.groupOf.size] do
    if current.groups.size ≤ number then break
    let (next, more) := current.splitGroup (apart current) number
    current := next
    changed := changed || more
  return (current, changed)

end Partition

/-- What the comparison of states needs to know. -/
structure Comparison where
  states : Array State
  /-- The tokens of each state. -/
  tokens : Array TokenSet
  /-- The tokens that the layout scanner finds. -/
  layout : TokenSet
  /-- For each token, those that it could be taken for. -/
  confusable : Array TokenSet

namespace Comparison

variable (c : Comparison)

/-- What is compared in the states of an automaton. -/
def ofAutomaton (a : Automaton) (confusion : Confusion) : Comparison where
  states := a.states
  tokens := a.states.map State.tokens
  layout := a.grammar.layoutSymbols.foldl TokenSet.insert .empty
  confusable := (Array.range a.grammar.terminalCount).map fun symbol =>
    if confusion.tokens.contains symbol then confusion.confusable symbol else .empty

/-- Whether a state may not look for some tokens that another one looks for. -/
def refuses (own others : TokenSet) : Bool :=
  let added := others.diff own
  !(added.inter c.layout).isEmpty ||
    added.toList.any fun token => !((c.confusable[token]?.getD .empty).inter own).isEmpty

/-- Whether two states treat a token differently or could confuse tokens of each other. -/
def conflict (p : Partition) (i j : Nat) : Bool :=
  let a := c.states[i]?.getD default
  let b := c.states[j]?.getD default
  let ta := c.tokens[i]?.getD .empty
  let tb := c.tokens[j]?.getD .empty
  ((ta.inter tb).toList.any fun token => !p.sameActions (a.on token) (b.on token)) ||
    c.refuses tb ta || c.refuses ta tb

/-- Whether two states lead to different groups. -/
def successorsDiffer (p : Partition) (i j : Nat) : Bool :=
  let a := c.states[i]?.getD default
  let b := c.states[j]?.getD default
  let common := (c.tokens[i]?.getD .empty).inter (c.tokens[j]?.getD .empty)
  (common.toList.any fun token =>
    match (a.on token).getLast?, (b.on token).getLast? with
    | some (.shift s _), some (.shift t _) => p.group s != p.group t
    | _, _ => false) ||
  (a.gotos.zip b.gotos).any fun (s, t) => s != 0 && t != 0 && p.group s != p.group t

end Comparison

/-- The groups of states that may be merged: those with one core, split until the states of a group
do not conflict and lead to the same groups. -/
def Partition.ofAutomaton (a : Automaton) (confusion : Confusion) : Partition := Id.run do
  let c := Comparison.ofAutomaton a confusion
  let mut current := ((Partition.byCore a.states).split c.conflict).1
  for _ in [0:a.states.size] do
    let (next, changed) := current.split c.successorsDiffer
    current := next
    unless changed do break
  return current

/-- An action with its state replaced. -/
def Action.mapState (change : Nat → Nat) : Action → Action
  | .shift state repetition => .shift (change state) repetition
  | action => action

namespace State

/-- A state with the states that it leads to replaced. -/
def mapStates (change : Nat → Nat) (s : State) : State :=
  { s with
    actions := s.actions.map fun actions => actions.map (·.mapState change)
    gotos := s.gotos.map fun t => if t == 0 then 0 else change t }

/-- A state that does what either of two does; the second has its way where both do something. -/
def merge (s t : State) : State :=
  { s with
    actions := (s.actions.zip t.actions).map fun (a, b) => if b.isEmpty then a else b
    gotos := (s.gotos.zip t.gotos).map fun (a, b) => if b == 0 then a else b }

/-- The states that a state leads to. -/
def successors (s : State) : List Nat :=
  (s.actions.toList.flatMap fun actions => actions.filterMap fun action => match action with
    | .shift t _ => some t
    | _ => none) ++ s.gotos.toList.filter (· != 0)

end State

namespace Automaton

variable (a : Automaton)

/-- The automaton whose states are the groups of a partition. -/
def merged (p : Partition) : Automaton :=
  { a with states := p.groups.map fun members =>
      match members.filterMap fun s => a.states[s]? with
      | [] => default
      | first :: rest => (rest.foldl State.merge first).mapStates p.group }

/-! ### Renaming states -/

/-- The symbol that a state renames its last node to, if it does nothing else whatever the token:
a hidden symbol without names that is nowhere shown as something else. -/
def renamed? (shownElsewhere : List Nat) (s : State) : Option Nat :=
  let actions := (s.actions.toList.flatMap id).filter (· != .extra)
  match actions with
  | .reduce symbol 1 0 0 :: rest =>
    let info := a.grammar.info symbol
    if info.visible || info.category || shownElsewhere.contains symbol then none
    else if rest.all (· == .reduce symbol 1 0 0) then some symbol else none
  | _ => none

/-- Where a state leads past the renaming states: from one of them on to the state after the
renamed node. -/
def pastRenamings (renamings : Array (Option Nat)) (s : State) : Nat → Nat → Nat
  | 0, target => target
  | fuel + 1, target => match (renamings[target]?).join with
    | none => target
    | some symbol => pastRenamings renamings s fuel (s.goto symbol)

/-- Which of the states can be reached from those of a work list. -/
def reachableFrom : Nat → List Nat → Array Bool → Array Bool
  | 0, _, found => found
  | _ + 1, [], found => found
  | fuel + 1, state :: work, found =>
    let fresh := ((a.states[state]?.map State.successors).getD []).foldl
      (fun (fresh, found) t => if found[t]?.getD true then (fresh, found)
        else (t :: fresh, found.setIfInBounds t true)) (work, found)
    reachableFrom fuel fresh.1 fresh.2

/-- The automaton without the states that nothing leads to; the first two stay. -/
def withoutUnreachable : Automaton :=
  let count := a.states.size
  let initial := ((Array.replicate count false).setIfInBounds 0 true).setIfInBounds 1 true
  let reached := a.reachableFrom (count + 1) [1] initial
  let numbers := (reached.foldl (fun (numbers, next) isReached =>
    (numbers.push next, if isReached then next + 1 else next)) (#[], 0)).1
  let kept := (a.states.zip reached).filterMap fun (s, isReached) =>
    if isReached then some (s.mapStates fun t => numbers[t]?.getD 0) else none
  { a with states := kept }

/-- The automaton with all ways leading past the renaming states. -/
def withoutRenamings : Automaton :=
  let shownElsewhere := (a.grammar.productions.toList.flatMap Production.steps).filterMap fun s =>
    s.shownAs.map fun _ => s.symbol
  let renamings := a.states.map (a.renamed? shownElsewhere.eraseDups)
  let states := a.states.map fun s => s.mapStates (pastRenamings renamings s a.states.size)
  { a with states }.withoutUnreachable

/-! ### The compact automaton -/

/-- The automaton whose state of error recovery acts on the tokens that may be looked for there. -/
def withRecovery (confusion : Confusion) : Automaton :=
  let tokens := endSymbol :: confusion.recoverable ++ a.grammar.ownLayoutSymbols.toList
  { a with states := a.states.modify 0 fun s =>
      { s with actions := tokens.foldl (fun actions token =>
          actions.modify token fun old => if old.isEmpty then [.recover] else old) s.actions } }

/-- The automaton with recovery, its states merged and the renaming ones bypassed. -/
def compact (confusion : Confusion) : Automaton :=
  let a := a.withRecovery confusion
  (a.merged (.ofAutomaton a confusion)).withoutRenamings

end Automaton

end EnergyAudit.Grammar
