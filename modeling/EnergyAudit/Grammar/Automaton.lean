import EnergyAudit.Grammar.Item

/-!
# The parsing automaton

The states that a parser of the grammar can be in, and its actions there for each token.

A state is a kernel of items with the tokens that may follow each.  Where a token allows several
actions, levels and groupings choose between them; actions that they do not choose between are all
kept, and the parser follows each.

## Main definitions

* `Action` — what to do on a token.
* `State` — the actions on tokens and the states after rules.
* `Automaton.ofItems` — the automaton of a grammar.  State 0 is the state of error recovery, and
  state 1 the start.
-/

namespace EnergyAudit.Grammar

/-- What a parser does on a token. -/
inductive Action where
  /-- Take the token and go to a state.  A *repetition* is not taken, since the reduction that
  stands beside it reads the same text. -/
  | shift (state : Nat) (repetition : Bool)
  /-- Take a token that may stand anywhere. -/
  | extra
  /-- Make a node of a rule from the last children. -/
  | reduce (symbol : Nat) (count : Nat) (preference : Int) (names : Nat)
  /-- The text is complete. -/
  | accept
  /-- Skip what is wrong. -/
  | recover
deriving BEq, Inhabited

/-- A state of the parser. -/
structure State where
  /-- The number of its kernel when following tokens are left out of account. -/
  core : Nat
  /-- The actions on each token. -/
  actions : Array (List Action)
  /-- The state after each symbol that is a rule; 0 where there is none. -/
  gotos : Array Nat
deriving Inhabited

namespace State

/-- A state without actions. -/
def blank (core terminalCount symbolCount : Nat) : State :=
  ⟨core, Array.replicate terminalCount [], Array.replicate symbolCount 0⟩

/-- The actions on a token. -/
def on (s : State) (token : Nat) : List Action := s.actions[token]?.getD []

/-- The state after a rule. -/
def goto (s : State) (symbol : Nat) : Nat := s.gotos[symbol]?.getD 0

/-- The tokens with an action. -/
def tokens (s : State) : TokenSet := Id.run do
  let mut set := TokenSet.empty
  for token in [0:s.actions.size] do
    unless (s.on token).isEmpty do set := set.insert token
  return set

end State

/-- An automaton, with the names that productions give to children. -/
structure Automaton where
  grammar : PlainGrammar
  states : Array State
  names : Array ChildNames

/-- The reductions on a token at one level, and how they group. -/
structure Reductions where
  level : Option Int
  left : Bool
  right : Bool
  neither : Bool
deriving Inhabited

namespace Reductions

/-- No reduction yet. -/
def start : Reductions := ⟨none, false, false, false⟩

/-- Takes note of one more reduction. -/
def add (r : Reductions) (level : Option Int) : Option Associativity → Reductions
  | some .left => { r with level, left := true }
  | some .right => { r with level, right := true }
  | none => { r with level, neither := true }

end Reductions

/-- Compares levels; no level is level zero. -/
def compareLevels (a b : Option Int) : Ordering := compare (a.getD 0) (b.getD 0)

/-- Adds an item to a kernel in its place. -/
def addToKernel (kernel : Array LookItem) (entry : LookItem) : Array LookItem :=
  match kernel.findIdx? fun k => entry.item ≤ k.item with
  | none => kernel.push entry
  | some place =>
    if (kernel[place]?.map LookItem.item) == some entry.item then
      kernel.modify place fun k => { k with tokens := k.tokens.union entry.tokens }
    else kernel.insertIdx! place entry

namespace ItemTable

variable (t : ItemTable)

/-- Chooses between the actions on a token where several are possible: a shift beside reductions is
compared with them by level, then by grouping.  A repetition that could be read on or combined is
marked and kept. -/
def resolve (items : Array LookItem) (token : Nat) (r : Reductions) (actions : List Action) :
    List Action :=
  match actions.getLast? with
  | some (.shift target repetition) =>
    let shifting := items.filter fun k =>
      let item := t.item k.item
      0 < item.key.dot && match item.expected with
        | none => false
        | some symbol => (t.first symbol).contains token
    let done := items.filter fun k => (t.item k.item).expected.isNone && k.tokens.contains token
    let heads := (shifting ++ done).map fun k => (t.item k.item).key.head
    let first := heads[0]?.getD 0
    if (t.grammar.info first).repetition && heads.all (· == first) then
      actions.dropLast ++ [.shift target true]
    else
      let against (o : Ordering) : Bool :=
        shifting.any fun k => compareLevels (t.item k.item).key.level r.level == o
      let more := against .gt
      let less := against .lt
      if more && !less then [.shift target repetition]
      else if less && !more then actions.dropLast
      else if more then actions
      else if r.left && !r.right && !r.neither then actions.dropLast
      else if r.right && !r.left && !r.neither then [.shift target repetition]
      else actions
  | _ => actions

/-- The names that productions give to children, each once, and the number of those of each
production.  Number 0 is for no names at all. -/
def childNames : Array ChildNames × Array Nat :=
  let within := t.grammar.fieldsWithin
  t.grammar.productions.foldl (fun (names, numbers) p =>
    let own := t.grammar.childNames within p
    match names.findIdx? (· == own) with
    | some number => (names, numbers.push number)
    | none => (names.push own, numbers.push names.size)) (#[⟨[], []⟩], #[])

/-- The reductions on each token, of those at the highest level only. -/
def reductions (numbers : Array Nat) (items : Array LookItem) :
    Array (List Action) × Array Reductions × TokenSet := Id.run do
  let count := t.grammar.terminalCount
  let mut actions : Array (List Action) := Array.replicate count []
  let mut infos : Array Reductions := Array.replicate count .start
  let mut conflicts := TokenSet.empty
  for k in items do
    let item := t.item k.item
    if item.expected.isNone then
      let action :=
        if item.key.head == t.grammar.symbols.size then Action.accept
        else .reduce item.key.head item.key.length item.key.preference
          (numbers[item.production]?.getD 0)
      for token in k.tokens.toList do
        let old := actions[token]?.getD []
        let info := infos[token]?.getD .start
        let order := if old.isEmpty then Ordering.gt else compareLevels item.key.level info.level
        match order with
        | .lt => pure ()
        | .eq =>
          conflicts := conflicts.insert token
          actions := actions.setIfInBounds token (old ++ [action])
          infos := infos.setIfInBounds token (info.add item.key.level item.key.grouping)
        | .gt =>
          conflicts := conflicts.diff (.single token)
          actions := actions.setIfInBounds token [action]
          infos := infos.setIfInBounds token
            (Reductions.start.add item.key.level item.key.grouping)
  return (actions, infos, conflicts)

/-- The kernels reached from some items over each symbol. -/
def successors (items : Array LookItem) : Array (Array LookItem) :=
  items.foldl (fun table k =>
    let item := t.item k.item
    match item.expected with
    | none => table
    | some symbol => table.modify symbol (addToKernel · ⟨item.next, k.tokens⟩))
    (Array.replicate t.grammar.symbols.size #[])

end ItemTable

/-- An automaton under construction: the states so far, those not yet filled in being known by
their kernels. -/
structure Construction where
  states : Array State
  kernels : Array (Array LookItem)
  numbers : Std.HashMap (Array LookItem) Nat
  cores : Std.HashMap (Array Nat) Nat

namespace Construction

/-- The number of the state with a kernel, new if need be. -/
def enter (t : ItemTable) (c : Construction) (kernel : Array LookItem) : Nat × Construction :=
  match c.numbers[kernel]? with
  | some number => (number, c)
  | none =>
    let number := c.states.size
    let core := kernel.map LookItem.item
    let coreNumber := (c.cores[core]?).getD c.cores.size
    let state := State.blank coreNumber t.grammar.terminalCount t.grammar.symbols.size
    (number,
      { states := c.states.push state
        kernels := c.kernels.push kernel
        numbers := c.numbers.insert kernel number
        cores := c.cores.insert core coreNumber })

/-- Fills in a state. -/
def fill (t : ItemTable) (names : Array Nat) (number : Nat) (c : Construction) :
    Construction := Id.run do
  let items := t.closure (c.kernels[number]?.getD #[])
  let (reductions, infos, conflicts) := t.reductions names items
  let mut actions := reductions
  let mut conflicts := conflicts
  let mut gotos : Array Nat := Array.replicate t.grammar.symbols.size 0
  let mut c := c
  for (kernel, symbol) in (t.successors items).zipIdx do
    unless kernel.isEmpty do
      let (target, entered) := c.enter t kernel
      c := entered
      if symbol < t.grammar.terminalCount then
        let old := actions[symbol]?.getD []
        unless old.isEmpty do conflicts := conflicts.insert symbol
        actions := actions.setIfInBounds symbol (old ++ [.shift target false])
      else gotos := gotos.setIfInBounds symbol target
  for token in conflicts.toList do
    actions := actions.modify token (t.resolve items token (infos[token]?.getD .start))
  for token in t.grammar.extras.toList do
    actions := actions.modify token fun old => if old.isEmpty then [.extra] else old
  return { c with states := c.states.modify number fun s => { s with actions, gotos } }

end Construction

/-- The automaton of a grammar.  Far fewer states than the bound arise. -/
def Automaton.ofItems (t : ItemTable) : Automaton := Id.run do
  let (names, numbers) := t.childNames
  let error := State.blank 0 t.grammar.terminalCount t.grammar.symbols.size
  let mut c : Construction := ⟨#[error], #[#[]], {}, ({} : Std.HashMap (Array Nat) Nat).insert #[] 0⟩
  c := (c.enter t #[⟨t.startItem, .single endSymbol⟩]).2
  for number in [1:100000] do
    if c.states.size ≤ number then break
    c := c.fill t numbers number
  return ⟨t.grammar, c.states, names⟩

end EnergyAudit.Grammar
