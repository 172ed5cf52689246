import EnergyAudit.Grammar.Merge

/-!
# Lexing tables

For each parser state, a deterministic automaton that reads the next token.  States that look for
nearly the same tokens share one, as long as no further token could get in the way.

## Main definitions

* `LexState` — what has been read, and where each letter leads.
* `LexTable.ofAutomaton` — the automata of all parser states, and the one that tells keywords from
  other words.
-/

namespace EnergyAudit.Grammar

/-- Where a letter leads: to a state, and whether the letter was a blank only. -/
structure LexMove where
  target : Nat
  blank : Bool
deriving Inhabited

/-- A state of a lexing automaton. -/
structure LexState where
  /-- The symbol of the token read completely. -/
  done : Option Nat
  /-- Whether the end of the text would be a token here. -/
  mayEnd : Bool
  /-- The move on each letter. -/
  moves : Array (Option LexMove)
deriving Inhabited

/-- The lexing automata. -/
structure LexTable where
  states : Array LexState
  /-- Where each parser state starts. -/
  starts : Array Nat
  /-- Where the reading of keywords starts. -/
  keywordStart : Nat

/-! ### Sets of tokens looked for -/

namespace Confusion

variable (c : Confusion)

/-- The tokens that a token must not be looked for with, unless a parser state demands it. -/
def unmixable (i : Nat) : TokenSet :=
  .ofList (c.tokens.filter fun j =>
    c.conflicts i j || (c.overlap i j).stopsShort ||
      (!c.isTogether i j && ((c.overlap i j).readsOn || (c.overlap j i).readsOn)))

/-- Whether two sets of tokens may be looked for at once.  `unmixable` gives for each token what it
must not be mixed with. -/
def mixable (unmixable : Array TokenSet) (lexical s t : TokenSet) : Bool :=
  let clash (own others : TokenSet) : Bool :=
    ((own.diff others).inter lexical).toList.any fun token =>
      !((unmixable[token]?.getD .empty).inter others).isEmpty
  !clash s t && !clash t s

/-- The tokens looked for in a parser state: keywords are read as the word token. -/
def lookedFor (lexical : TokenSet) (s : State) : TokenSet :=
  let tokens := s.tokens
  let plain := (tokens.inter (lexical.insert endSymbol)).diff c.keywords
  if (tokens.inter c.keywords).isEmpty then plain else plain.insert wordSymbol

/-- Sets of tokens, and for each parser state the one that it uses: the first that may be mixed with
its own tokens, which are added to it. -/
def lexSets (states : Array State) : Array TokenSet × Array Nat :=
  let lexical := TokenSet.ofList c.tokens
  let count := c.together.size
  let unmixable := (Array.range count).map fun i =>
    if lexical.contains i then c.unmixable i else .empty
  states.foldl (fun (sets, used) s =>
    let tokens := c.lookedFor lexical s
    match sets.findIdx? (mixable unmixable lexical · tokens) with
    | some number => (sets.modify number (·.union tokens), used.push number)
    | none => (sets.push tokens, used.push sets.size)) (#[], #[])

end Confusion

/-! ### Automata -/

/-- Lexing automata under construction: states are known by their leaves and by whether they may
end. -/
structure LexConstruction where
  states : Array LexState
  leaves : Array (List Nat × Bool)
  numbers : Std.HashMap (List Nat × Bool) Nat

namespace LexConstruction

/-- The number of the state with some leaves, new if need be. -/
def enter (c : LexConstruction) (leaves : List Nat) (mayEnd : Bool) : Nat × LexConstruction :=
  match c.numbers[(leaves, mayEnd)]? with
  | some number => (number, c)
  | none =>
    (c.states.size,
      { states := c.states.push default
        leaves := c.leaves.push (leaves, mayEnd)
        numbers := c.numbers.insert (leaves, mayEnd) c.states.size })

/-- Fills in a state. -/
def fill (m : TokenAutomaton) (symbols : Array Nat) (c : LexConstruction) (number : Nat) :
    LexConstruction := Id.run do
  let (leaves, mayEnd) := c.leaves[number]?.getD ([], false)
  let done := m.completion leaves
  let blanks := m.mayReadBlank leaves
  let mut c := c
  let mut moves : Array (Option LexMove) := #[]
  for letter in [0:letterCount] do
    let move := match m.moveOn leaves letter with
      | none => none
      | some move =>
        match done with
        | none => some move
        | some d => if m.readsOn move d blanks then some move else none
    match move with
    | none => moves := moves.push none
    | some move =>
      let (target, entered) := c.enter (m.leavesOf move.targets) (mayEnd && move.blank)
      c := entered
      moves := moves.push (some ⟨target, move.blank⟩)
  let state := ⟨done.map fun d => symbols[d.1]?.getD 0, mayEnd, moves⟩
  return { c with states := c.states.setIfInBounds number state }

end LexConstruction

/-- The lexing automata of a parser.  Far fewer states than the bound arise. -/
def LexTable.ofAutomaton (a : Automaton) (confusion : Confusion) (m : TokenAutomaton) :
    LexTable := Id.run do
  let symbols := a.grammar.tokenSymbols
  let startOf (tokens : TokenSet) : List Nat :=
    m.leavesOf (symbols.toList.zipIdx.filterMap fun (symbol, token) =>
      if tokens.contains symbol then m.starts[token]? else none)
  let (sets, used) := confusion.lexSets a.states
  let mut c : LexConstruction := ⟨#[], #[], {}⟩
  let mut starts : Array Nat := #[]
  for set in sets do
    let (number, entered) := c.enter (startOf set) (set.contains endSymbol)
    c := entered
    starts := starts.push number
  let (keywordStart, entered) := c.enter (startOf confusion.keywords) false
  c := entered
  for number in [0:100000] do
    if c.states.size ≤ number then break
    c := c.fill m symbols number
  return ⟨c.states, used.map fun set => starts[set]?.getD 0, keywordStart⟩

end EnergyAudit.Grammar
