import EnergyAudit.Grammar.LexTable

/-!
# Parse tables

All that a parser has to look up while it reads a text.

## Main definitions

* `ParseTable` — the actions, the lexing automata and what is known of the symbols.
* `ParseTable.ofGrammar` — the table of a grammar.
-/

namespace EnergyAudit.Grammar

/-- The symbol of a piece of text that is no part of the language. -/
def errorSymbol : Nat := 65535

/-- The symbol of several pieces of text in a row that are no part of the language. -/
def errorRowSymbol : Nat := 65534

/-- The state of error recovery. -/
def errorState : Nat := 0

/-- The state in which a text starts and ends. -/
def startState : Nat := 1

/-- What a parser looks up. -/
structure ParseTable where
  symbols : Array SymbolInfo
  terminalCount : Nat
  states : Array State
  /-- For each kind of production, what its children are shown as. -/
  shownAs : Array (Array (Option String))
  /-- For each kind of production, the fields of its children. -/
  fields : Array (Array (Option String))
  lexing : LexTable
  /-- The symbols of the layout scanner's tokens. -/
  layoutSymbols : Array Nat
  /-- For each state, which of the layout scanner's tokens it looks for. -/
  layoutSets : Array (Array Bool)

namespace ParseTable

variable (t : ParseTable)

/-- The actions of a state on a token. -/
def actions (state token : Nat) : List Action :=
  match t.states[state]? with
  | some s => s.on token
  | none => []

/-- The state after a symbol; 0 where it does not fit. -/
def nextState (state symbol : Nat) : Nat :=
  if symbol < t.terminalCount then
    match (t.actions state symbol).getLast? with
    | some .extra => state
    | some (.shift target _) => target
    | _ => 0
  else match t.states[state]? with
    | some s => s.goto symbol
    | none => 0

/-- Whether a state reduces on a token. -/
def reducesOn (state token : Nat) : Bool :=
  match t.actions state token with
  | .reduce .. :: _ => true
  | _ => false

/-- Whether a state takes a token as one that may stand anywhere. -/
def takesAsExtra (state token : Nat) : Bool := (t.actions state token).getLast? == some .extra

/-- Whether nodes of a symbol appear in the tree. -/
def isVisible (symbol : Nat) : Bool :=
  if symbol < errorRowSymbol then (t.symbols[symbol]?.map SymbolInfo.visible).getD false
  else symbol == errorSymbol

/-- What the child with a number is shown as by a kind of production. -/
def shownAs? (names child : Nat) : Option String := ((t.shownAs[names]?.getD #[])[child]?).join

/-- The field of the child with a number in a kind of production. -/
def field? (names child : Nat) : Option String := ((t.fields[names]?.getD #[])[child]?).join

/-- The fields of the children by their numbers; a child has one at most. -/
def fieldList (names : ChildNames) : Array (Option String) :=
  let size := names.fields.foldl (fun size (_, child, _) => max size (child + 1)) 0
  names.fields.foldl (fun fields (name, child, inherited) =>
    if inherited then fields else fields.setIfInBounds child (some name)) (Array.replicate size none)

/-- The table of a compact automaton. -/
def ofAutomaton (a : Automaton) (lexing : LexTable) : ParseTable where
  symbols := a.grammar.symbols
  terminalCount := a.grammar.terminalCount
  states := a.states
  shownAs := a.names.map fun names => names.shownAs.toArray
  fields := a.names.map fieldList
  lexing
  layoutSymbols := a.grammar.layoutSymbols
  layoutSets := a.states.mapIdx fun number s =>
    a.grammar.layoutSymbols.map fun symbol => number == errorState || !(s.on symbol).isEmpty

/-- The table of a grammar. -/
def ofGrammar (g : Grammar) : ParseTable :=
  let plain := PlainGrammar.ofGrammar g
  let items := ItemTable.ofGrammar plain
  let automaton := Automaton.ofItems items
  let tokens := TokenAutomaton.ofTokens plain.tokens g.blanks
  let confusion := Confusion.ofAutomaton items automaton tokens
  let compact := automaton.compact confusion
  .ofAutomaton compact (.ofAutomaton compact confusion tokens)

end ParseTable

end EnergyAudit.Grammar
