import EnergyAudit.Grammar.Automaton
import EnergyAudit.Grammar.TokenAutomaton

/-!
# Tokens that can be confused

Which tokens hide one another when a parser state looks for both, and which tokens are keywords:
fixed words that are read as the word token first and told apart afterwards.

Tokens are given by their symbols throughout.

## Main definitions

* `Confusion.ofAutomaton` — the competition of all pairs of tokens of an automaton.
* `Confusion.keywords` — the keywords.
* `Confusion.recoverable` — the tokens that error recovery looks for.
-/

namespace EnergyAudit.Grammar

/-- The competition between the tokens of an automaton. -/
structure Confusion where
  /-- The symbols of the tokens that the token automaton reads. -/
  tokens : List Nat
  /-- For each symbol, how it competes with each other one. -/
  overlaps : Array (Array Overlap)
  /-- For each symbol, the tokens that some state looks for together with it. -/
  together : Array TokenSet
  keywords : TokenSet

/-! ### What follows a token -/

/-- For each symbol of a token, the tokens that may follow it directly. -/
def ItemTable.followers (t : ItemTable) : Array TokenSet := Id.run do
  let g := t.grammar
  let mut table : Array TokenSet := Array.replicate g.terminalCount .empty
  for p in g.productions do
    for (left, right) in p.steps.zip (p.steps.drop 1) do
      let next := t.first right.symbol
      for token in (t.lasts[left.symbol]?.getD .empty).toList do
        table := table.modify token (·.union next)
  let all := TokenSet.ofList (List.range g.terminalCount)
  return (table.map (·.union g.extras)).mapIdx fun symbol next =>
    if g.extras.contains symbol then all else next

/-- For each terminal, the tokens that one of some states has actions for together with it. -/
def togetherIn (terminalCount : Nat) (states : Array State) : Array TokenSet :=
  states.foldl (fun table s =>
    let tokens := s.tokens
    tokens.toList.foldl (fun table token => table.modify token (·.union tokens)) table)
    (Array.replicate terminalCount .empty)

namespace Confusion

variable (c : Confusion)

/-- How one token competes with another. -/
def overlap (i j : Nat) : Overlap := (c.overlaps[i]?.getD #[])[j]?.getD .apart

/-- Whether some state looks for both tokens. -/
def isTogether (i j : Nat) : Bool := (c.together[i]?.getD .empty).contains j

/-- Whether a token could be taken for another one. -/
def conflicts (i j : Nat) : Bool := (c.overlap i j).conflicts

/-- Whether two tokens are a keyword and the word token, in either order. -/
def isWordPair (i j : Nat) : Bool :=
  (i == wordSymbol && c.keywords.contains j) || (j == wordSymbol && c.keywords.contains i)

/-- The tokens that a token could be taken for, a keyword and the word token excepted. -/
def confusable (i : Nat) : TokenSet :=
  .ofList (c.tokens.filter fun j => c.conflicts i j && !c.isWordPair i j)

/-- Whether a token runs on beyond the end of another, which does not end in blanks itself. -/
def disturbs (i j : Nat) : Bool :=
  let own := c.overlap i j
  (own.readsOnIntoFollower || own.endsInBlank) && !(c.overlap j i).endsInBlank

/-! ### Keywords -/

/-- The keywords among some words.  A word that wins over another one hides it, so the other is no
keyword; nor is a word that competes with some further token otherwise than the word token does,
unless the word token is always looked for with both.  `withoutWord` gives the tokens that are
looked for together where the word token is not. -/
def keywordsAmong (words : List Nat) (withoutWord : Array TokenSet) : List Nat :=
  words.filter fun i =>
    (!words.any fun j => j != i && (c.overlap j i).winsSameText) &&
      c.tokens.all fun j =>
        words.contains j || !(withoutWord[i]?.getD .empty).contains j ||
          c.overlap i j == c.overlap wordSymbol j

/-! ### Error recovery -/

/-- The tokens that disturb no token that they are never met together with. -/
def undisturbing : List Nat :=
  c.tokens.filter fun i =>
    !c.tokens.any fun j => i != j && !c.isTogether i j && c.disturbs i j

/-- Of all tokens, those of `free`, the keywords, the word token, and those that conflict with none
of `free` that they are never met together with. -/
def recoverableBeside (free : List Nat) : List Nat :=
  c.tokens.filter fun i =>
    free.contains i || c.keywords.contains i || i == wordSymbol ||
      !free.any fun j => !c.isTogether i j && c.conflicts i j

/-- The tokens that error recovery looks for. -/
def recoverable : List Nat := c.recoverableBeside c.undisturbing

end Confusion

/-! ### All pairs -/

namespace TokenAutomaton

variable (m : TokenAutomaton)

/-- Whether a token starts as a word does: with a letter or an underscore. -/
def startsLikeWord (token : Nat) : Bool :=
  let wordStart := ((LetterSet.range 'a' 'z').union (.range 'A' 'Z')).union
    (.ofList ['_'.toNat, identifierStartLetter])
  (m.leavesOf [m.starts[token]?.getD 0]).all fun cell => match m.cell? cell with
    | some (.advance letters _ _ blank) => blank || !letters.meets wordStart.except
    | _ => true

/-- How every token competes with every other one, `symbols` giving the symbol of each token. -/
def overlaps (symbols : Array Nat) (followers : Array LetterSet) : Array (Array Overlap) := Id.run do
  let size := m.tokens.size + 1
  let mut table : Array (Array Overlap) := Array.replicate size (Array.replicate size .apart)
  for i in [0:m.tokens.size] do
    for j in [0:i] do
      let (ofI, ofJ) := m.overlap followers i j
      let s := symbols[i]?.getD 0
      let t := symbols[j]?.getD 0
      table := table.modify s (·.setIfInBounds t ofI)
      table := table.modify t (·.setIfInBounds s ofJ)
  return table

end TokenAutomaton

/-- The competition between the tokens of an automaton, read by the token automaton `m`. -/
def Confusion.ofAutomaton (t : ItemTable) (a : Automaton) (m : TokenAutomaton) : Confusion :=
  let symbols := t.grammar.tokenSymbols
  let following := t.followers
  let starts := (Array.range m.tokens.size).map m.firstLetters
  let letters := symbols.map fun symbol =>
    symbols.zipIdx.foldl (fun set (next, token) =>
      if (following[symbol]?.getD .empty).contains next then
        set.union (starts[token]?.getD .empty)
      else set) LetterSet.empty
  let c : Confusion :=
    { tokens := symbols.toList
      overlaps := m.overlaps symbols letters
      together := togetherIn t.grammar.terminalCount a.states
      keywords := .empty }
  let words := (symbols.toList.zipIdx.filter fun (i, token) =>
    i != wordSymbol && m.startsLikeWord token && (c.overlap i wordSymbol).winsSameText &&
      !(c.overlap i wordSymbol).goesOnAlone).map Prod.fst
  let withoutWord := togetherIn t.grammar.terminalCount
    (a.states.filter fun s => (s.on wordSymbol).isEmpty)
  { c with keywords := .ofList (c.keywordsAmong words withoutWord) }

end EnergyAudit.Grammar
