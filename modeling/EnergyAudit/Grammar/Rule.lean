import EnergyAudit.Grammar.Pattern

/-!
# Grammar rules

A grammar as it is written down: named rules over tokens, with levels and associativities that
resolve ambiguities, names for the children of a node, and the way each rule appears in the tree.

## Main definitions

* `Rule` — the right-hand side of a rule.
* `Visibility` — how the nodes of a rule appear in the tree.
* `Definition` — a token or a rule with its name.
* `Grammar` — a list of definitions; the first rule is the start.
-/

namespace EnergyAudit.Grammar

/-- How operators of one level group. -/
inductive Associativity where
  | left
  | right
deriving BEq, Hashable, Ord

/-- The right-hand side of a rule. -/
inductive Rule where
  /-- Nothing. -/
  | blank
  /-- A rule or token by its name. -/
  | symbol (name : String)
  /-- A token by its fixed text. -/
  | literal (text : String)
  | seq (first second : Rule)
  | choice (left right : Rule)
  /-- The rule once or more. -/
  | many (body : Rule)
  /-- A level and grouping by which the parser chooses between actions. -/
  | level (value : Int) (grouping : Option Associativity) (body : Rule)
  /-- A preference between whole readings of an ambiguous text. -/
  | preference (value : Int) (body : Rule)
  /-- The child has a name within its parent. -/
  | field (name : String) (body : Rule)
  /-- The child is shown as a node of this kind. -/
  | shownAs (kind : String) (body : Rule)
deriving BEq, Hashable

namespace Rule

/-- All rules of a list, one after another. -/
def all : List Rule → Rule
  | [] => blank
  | [r] => r
  | r :: rest => seq r (all rest)

/-- Any one rule of a list. -/
def any : List Rule → Rule
  | [] => blank
  | [r] => r
  | r :: rest => choice r (any rest)

/-- The rule once or not at all. -/
def optional (r : Rule) : Rule := choice r blank

/-- The rule any number of times. -/
def repeated (r : Rule) : Rule := optional (many r)

/-- The rule once or more, with a separator between. -/
def separated (r : Rule) (separator : String) : Rule :=
  seq r (repeated (seq (literal separator) r))

/-- The rule once or more, with commas between. -/
def commaSeparated (r : Rule) : Rule := separated r ","

/-- A level at which operators group to the left. -/
def leftAt (value : Int) (r : Rule) : Rule := level value (some .left) r

/-- A level at which operators group to the right. -/
def rightAt (value : Int) (r : Rule) : Rule := level value (some .right) r

/-- A level without grouping. -/
def atLevel (value : Int) (r : Rule) : Rule := level value none r

end Rule

/-- How the nodes of a rule appear in the tree. -/
inductive Visibility where
  /-- As a node of the rule's name. -/
  | node
  /-- As a node of another name.  The names of the children of an *open* rule count within the
  node above as well. -/
  | nodeNamed (kind : String) (named isOpen : Bool)
  /-- Not at all, since the rule names a class of nodes. -/
  | category
  /-- Not at all: its children stand in its place. -/
  | hidden
  /-- Not at all, since the rule is the repetition of another. -/
  | repetition
  /-- Not at all, and its alternatives are written out wherever the rule is used. -/
  | inlined
deriving BEq

/-- A token or a rule. -/
inductive Definition where
  | token (token : Token)
  | rule (name : String) (visibility : Visibility) (body : Rule)

/-- A token that the layout scanner finds, not the automaton of patterns: either one of its own, or
one whose acceptance the scanner wants to know of. -/
inductive LayoutToken where
  | own (name : String) (visible : Bool)
  | shared (name : String)

end EnergyAudit.Grammar

namespace EnergyAudit

/-- A grammar. -/
structure Grammar where
  definitions : List Grammar.Definition
  /-- The tokens of the layout scanner, in the order in which it counts them. -/
  layoutTokens : List Grammar.LayoutToken
  /-- One blank between tokens. -/
  blanks : Grammar.Pattern
  /-- Tokens that may stand anywhere. -/
  extras : List String
  /-- The token that fixed words are read as where they have no meaning of their own. -/
  wordToken : String

end EnergyAudit
