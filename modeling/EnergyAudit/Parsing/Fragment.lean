import EnergyAudit.Grammar.ParseTable

/-!
# Fragments

A fragment is a piece of the tree that a parser is building: a token, or a rule with the fragments
it consists of.  It carries what the parser has to compare: its length with the blanks before it,
the cost of the errors in it and its preference among the readings of an ambiguous text.

The parser also keeps the state of the layout scanner, of some type `σ`, behind every token that
the scanner has found.

## Main definitions

* `Extent` — a length in bytes and lines.
* `Fragment` — with `Fragment.leaf`, `Fragment.missing` and `Fragment.ofChildren`.
* `Fragment.isBetter` — whether one of two readings of the same text replaces the other.
-/

namespace EnergyAudit.Parsing

open EnergyAudit.Grammar

/-- A length of text: its bytes and the line ends among them. -/
structure Extent where
  bytes : Nat
  rows : Nat
deriving BEq, Inhabited

/-- No text. -/
def Extent.zero : Extent := ⟨0, 0⟩

instance : Add Extent := ⟨fun a b => ⟨a.bytes + b.bytes, a.rows + b.rows⟩⟩

/-! ### Costs of errors -/

/-- The cost of leaving the grammar once. -/
def recoveryCost : Nat := 500

/-- The cost of a token that is missing. -/
def missingCost : Nat := 110

/-- The cost of a node that had to be skipped. -/
def skippedNodeCost : Nat := 100

/-- The cost of each byte skipped. -/
def skippedByteCost : Nat := 1

/-- The cost of each line end skipped. -/
def skippedLineCost : Nat := 30

/-! ### Fragments -/

/-- A piece of the tree under construction. -/
structure Fragment (σ : Type) where
  symbol : Nat
  /-- The blanks before it. -/
  padding : Extent
  size : Extent
  /-- Whether it may stand anywhere and is no part of the rule it stands in. -/
  isExtra : Bool
  isVisible : Bool
  isMissing : Bool
  /-- Whether it was read as a keyword. -/
  isKeyword : Bool
  /-- The cost of the errors in it. -/
  cost : Nat
  preference : Int
  /-- The number of nodes within it. -/
  nodesWithin : Nat
  /-- The number of nodes that are its children, those of hidden children included. -/
  nodeChildren : Nat
  /-- The state of the layout scanner behind the last token that it found, if any. -/
  layout : Option σ
  /-- Whether one of those tokens changed the state of the layout scanner. -/
  changesLayout : Bool
  /-- The kind of production. -/
  names : Nat
  /-- The symbol of the first token. -/
  firstToken : Nat
  children : Array (Fragment σ)
deriving Inhabited

namespace Fragment

variable {σ : Type}

/-- A token. -/
def leaf (t : ParseTable) (symbol : Nat) (padding size : Extent) : Fragment σ where
  symbol
  padding
  size
  isExtra := symbol == endSymbol
  isVisible := t.isVisible symbol
  isMissing := false
  isKeyword := false
  cost := 0
  preference := 0
  nodesWithin := 0
  nodeChildren := 0
  layout := none
  changesLayout := false
  names := 0
  firstToken := symbol
  children := #[]

/-- A token that the text lacks. -/
def missing (t : ParseTable) (symbol : Nat) : Fragment σ :=
  { leaf t symbol .zero .zero with isMissing := true, cost := missingCost + recoveryCost }

/-- Whether it stands for text outside the language. -/
def isError (f : Fragment σ) : Bool := f.symbol == errorSymbol

/-- Whether it is a token. -/
def isLeaf (f : Fragment σ) : Bool := f.children.isEmpty

/-- Its length with the blanks before it. -/
def extent (f : Fragment σ) : Extent := f.padding + f.size

/-- The number of nodes it amounts to when progress is measured. -/
def nodeCount (f : Fragment σ) : Nat :=
  f.nodesWithin + (if f.isVisible then 1 else 0) + (if f.symbol == errorRowSymbol then 1 else 0)

/-- The cost that a child adds to a fragment of skipped text. -/
def skippedCost (child : Fragment σ) : Nat :=
  if child.isExtra || (child.isError && child.isLeaf) then 0
  else if child.isVisible then skippedNodeCost
  else skippedNodeCost * child.nodeChildren

/-- Takes one more child into account.  `place` counts the children that are parts of the rule. -/
def addChild (t : ParseTable) (f : Fragment σ) (place : Nat) (child : Fragment σ) : Fragment σ :=
  let isSkipped := f.symbol == errorSymbol || f.symbol == errorRowSymbol
  let renamed := !child.isExtra && child.symbol != endSymbol && (t.shownAs? f.names place).isSome
  { f with
    size := f.size + child.extent
    cost := f.cost + (if child.symbol == errorRowSymbol then 0 else child.cost) +
      (if isSkipped then child.skippedCost else 0)
    preference := f.preference + child.preference
    nodesWithin := f.nodesWithin + child.nodesWithin +
      (if renamed || child.isVisible then 1 else 0)
    nodeChildren := f.nodeChildren +
      (if renamed || child.isVisible then 1
       else if child.isLeaf then 0 else child.nodeChildren)
    layout := if child.layout.isSome then child.layout else f.layout
    changesLayout := f.changesLayout || child.changesLayout }

/-- A rule with its children.  The blanks before the first child are those before the whole. -/
def ofChildren (t : ParseTable) (symbol : Nat) (children : Array (Fragment σ)) (names : Nat) :
    Fragment σ :=
  let padding := (children[0]?.map Fragment.padding).getD .zero
  let initial : Fragment σ :=
    { leaf t symbol padding .zero with
      isExtra := false
      names
      firstToken := (children[0]?.map Fragment.firstToken).getD symbol }
  let (sum, _) := children.foldl (fun (f, place) child =>
    (f.addChild t place child, if child.isExtra then place else place + 1)) (initial, 0)
  let size := ⟨sum.size.bytes - padding.bytes, sum.size.rows - padding.rows⟩
  let isSkipped := symbol == errorSymbol || symbol == errorRowSymbol
  { sum with
    size
    children
    cost := if isSkipped then
        sum.cost + recoveryCost + skippedByteCost * size.bytes + skippedLineCost * size.rows
      else sum.cost }

/-- Removes the fragments at the end that may stand anywhere: the rest, and those removed. -/
def splitTrailingExtras (children : Array (Fragment σ)) :
    Array (Fragment σ) × Array (Fragment σ) :=
  if (children.back?.map isExtra).getD false then
    let kept := children.toList.reverse.dropWhile isExtra
    (children.take kept.length, children.drop kept.length)
  else (children, #[])

/-! ### Choosing between readings -/

/-- Compares pairs of fragments by their symbols and their numbers of children; the first pair that
differs decides.  The pairs of children are compared before those behind them. -/
def compareAll : Nat → List (Fragment σ × Fragment σ) → Ordering
  | 0, _ => .eq
  | _ + 1, [] => .eq
  | fuel + 1, (a, b) :: rest =>
    match compare a.symbol b.symbol with
    | .eq => match compare a.children.size b.children.size with
      | .eq => compareAll fuel ((a.children.zip b.children).toList ++ rest)
      | order => order
    | order => order

/-- The number of pairs that are compared at most. -/
def comparisonLimit : Nat := 1000000000

/-- Whether the second reading of a text replaces the first: the cheaper one does, then the
preferred one; of readings with errors the later, of others the lesser by their symbols. -/
def isBetter (old new : Fragment σ) : Bool :=
  if new.cost != old.cost then new.cost < old.cost
  else if new.preference != old.preference then new.preference > old.preference
  else if old.cost > 0 then true
  else compareAll comparisonLimit [(old, new)] == .gt

end Fragment

end EnergyAudit.Parsing
