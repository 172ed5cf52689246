import EnergyAudit.Grammar.Letter

/-!
# Token patterns

The regular patterns of tokens, and the cells of the nondeterministic automaton that recognises
them.  A token with a higher level wins over another one that matches the same text, and its
further letters are read in preference to stopping at a token of a lower level.

## Main definitions

* `Pattern` — regular expressions over letters.
* `Token` — a named pattern with its level.
* `Cell` — one cell of the automaton; `Pattern.compile` lays a pattern out as cells.
-/

namespace EnergyAudit.Grammar

/-- Regular expressions over letters. -/
inductive Pattern where
  /-- The empty text. -/
  | empty
  /-- One letter of a set. -/
  | letter (set : LetterSet)
  /-- One pattern after another. -/
  | seq (first second : Pattern)
  /-- Either pattern. -/
  | choice (left right : Pattern)
  /-- The pattern once or more. -/
  | many (body : Pattern)

namespace Pattern

/-- All patterns of a list, one after another. -/
def all (parts : List Pattern) : Pattern := parts.foldr seq empty

/-- Any one pattern of a list; the empty text if there is none. -/
def any : List Pattern → Pattern
  | [] => empty
  | [p] => p
  | p :: rest => choice p (any rest)

/-- The pattern once or not at all. -/
def optional (p : Pattern) : Pattern := choice p empty

/-- A fixed text. -/
def text (s : String) : Pattern := all (s.toList.map fun c => letter (.single (letterOf c)))

/-- The pattern exactly so many times. -/
def times (p : Pattern) (count : Nat) : Pattern := all (List.replicate count p)

end Pattern

/-- A token of the language. -/
structure Token where
  /-- What the node of the token is called. -/
  name : String
  /-- Whether the node is named for its role rather than written as its text. -/
  named : Bool
  /-- Whether the token appears in the tree at all. -/
  visible : Bool
  pattern : Pattern
  /-- Whether the pattern is one fixed text. -/
  literal : Bool
  /-- Whether the token must follow without blanks. -/
  immediate : Bool
  /-- The level at which its letters compete with those of other tokens. -/
  level : Int

namespace Token

/-- A token with a fixed text, shown as that text. -/
def ofText (text : String) : Token :=
  ⟨text, false, true, .text text, true, false, 0⟩

/-- A token with a fixed text under a name of its own. -/
def keyword (name text : String) : Token :=
  ⟨name, true, true, .text text, true, false, 0⟩

/-- A token with a pattern. -/
def ofPattern (name : String) (pattern : Pattern) : Token :=
  ⟨name, true, true, pattern, false, false, 0⟩

/-- How strongly the kind of pattern speaks for a token: fixed texts before patterns, tokens that
must follow immediately before others. -/
def weight (t : Token) : Nat := (if t.literal then 2 else 0) + (if t.immediate then 1 else 0)

end Token

/-- A cell of the token automaton. -/
inductive Cell where
  /-- A token has been read. -/
  | accept (token : Nat) (level : Int)
  /-- A letter of the set leads on to another cell; blanks between tokens are marked. -/
  | advance (letters : LetterSet) (target : Nat) (level : Int) (blank : Bool)
  /-- The automaton is in both cells. -/
  | split (left right : Nat)
deriving Inhabited

/-- Lays out a pattern that continues at the cell `next`, and gives the cell where it starts. -/
def Pattern.compile (level : Int) (blank : Bool) : Pattern → Nat → Array Cell → Nat × Array Cell
  | .empty, next, cells => (next, cells)
  | .letter set, next, cells => (cells.size, cells.push (.advance set next level blank))
  | .seq first second, next, cells =>
    let (middle, cells) := second.compile level blank next cells
    first.compile level blank middle cells
  | .choice left right, next, cells =>
    let (l, cells) := left.compile level blank next cells
    let (r, cells) := right.compile level blank next cells
    (cells.size, cells.push (.split l r))
  | .many body, next, cells =>
    let loop := cells.size
    let (start, cells) := body.compile level blank loop (cells.push (.split next next))
    (start, cells.setIfInBounds loop (.split start next))

end EnergyAudit.Grammar
