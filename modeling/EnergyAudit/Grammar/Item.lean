import EnergyAudit.Grammar.Production

/-!
# Items

An item is a production with a dot: the steps before the dot have been read.  Items that differ
only in what no longer matters, the symbols already read, count as one; what still matters are the
kinds and names that the production gives to the children it has, and the level and grouping of the
step just read.

## Main definitions

* `ItemKey` — what makes items the same.
* `ItemTable` — all items of a grammar, numbered, with the sets of tokens that can start a symbol.
* `ItemTable.closure` — a kernel of items with all the items that they expect next.
-/

namespace EnergyAudit.Grammar

/-- What makes two items the same. -/
structure ItemKey where
  dot : Nat
  head : Nat
  preference : Int
  length : Nat
  level : Option Int
  grouping : Option Associativity
  /-- The kinds and names of the children read, and their symbols where those have names within. -/
  read : List (Option String × Option String × Option Nat)
  rest : List Step
deriving BEq, Hashable, Inhabited

/-- A production with a dot.  `expected` and `after` are the next symbol and the one behind it,
`next` is the item with the dot moved over the next symbol. -/
structure Item where
  key : ItemKey
  production : Nat
  expected : Option Nat
  after : Option Nat
  next : Nat
deriving Inhabited

/-- The items that a symbol brings with it when it is expected: the item, tokens that may follow
it, and whether the tokens that may follow the symbol may follow the item as well. -/
structure Expected where
  item : Nat
  tokens : TokenSet
  inherits : Bool
deriving Inhabited

/-- All items of a grammar. -/
structure ItemTable where
  grammar : PlainGrammar
  items : Array Item
  /-- The tokens that can start each symbol. -/
  firsts : Array TokenSet
  /-- The tokens that can end each symbol. -/
  lasts : Array TokenSet
  /-- What each symbol brings with it when it is expected. -/
  expectations : Array (Array Expected)
  /-- The number of the item that starts the whole text. -/
  startItem : Nat

/-- An item with the tokens that may follow it. -/
structure LookItem where
  item : Nat
  tokens : TokenSet
deriving BEq, Hashable, Inhabited

namespace PlainGrammar

variable (g : PlainGrammar)

/-- Whether the nodes of a symbol carry field names for the node above them. -/
def namesWithin (within : Array (List String)) (symbol : Nat) : Bool :=
  g.isHiddenRule symbol && !(within[symbol]?.getD []).isEmpty

/-- The key of a production with the dot at a place. -/
def itemKey (within : Array (List String)) (p : Production) (dot : Nat) : ItemKey :=
  let read := p.steps.take dot
  let last := read.getLast?
  let keepSymbols := read.any fun s => g.namesWithin within s.symbol
  { dot
    head := p.head
    preference := p.preference
    length := p.steps.length
    level := last.bind Step.level
    grouping := last.bind Step.grouping
    read := read.map fun s => (s.shownAs, s.field, if keepSymbols then some s.symbol else none)
    rest := p.steps.drop dot }

/-- One round of closing the sets of tokens at one end of each symbol. -/
def closeEnds (endOf : List Step → Option Step) (sets : Array TokenSet) : Array TokenSet :=
  g.productions.foldl (fun sets p =>
    match endOf p.steps with
    | none => sets
    | some s => sets.modify p.head ((sets[s.symbol]?.getD .empty).union ·)) sets

/-- The sets of tokens at one end of each symbol. -/
def endSets (endOf : List Step → Option Step) : Array TokenSet :=
  let rec go : Nat → Array TokenSet → Array TokenSet
    | 0, sets => sets
    | fuel + 1, sets =>
      let next := g.closeEnds endOf sets
      if next == sets then sets else go fuel next
  let initial := (Array.range g.symbols.size).map fun symbol =>
    if symbol < g.terminalCount then TokenSet.single symbol else .empty
  go (128 * g.symbols.size) initial

/-- The symbols that can stand first in a symbol, with the tokens that may follow them there and
whether they can also end it: the work list holds what is still to be entered. -/
def leadingSymbols (firsts : Array TokenSet) (productionsOf : Array (List Production)) :
    Nat → List (Nat × TokenSet × Bool) → Array (Option (TokenSet × Bool)) →
      Array (Option (TokenSet × Bool))
  | 0, _, found => found
  | _ + 1, [], found => found
  | fuel + 1, (symbol, tokens, inherits) :: work, found =>
    let old := (found[symbol]?).getD none
    let new := match old with
      | none => (tokens, inherits)
      | some (t, i) => (t.union tokens, i || inherits)
    if old == some new then leadingSymbols firsts productionsOf fuel work found
    else
      let entered := (productionsOf[symbol]?.getD []).filterMap fun p => match p.steps with
        | s :: rest =>
          if s.symbol < g.terminalCount then none
          else match rest with
            | [] => some (s.symbol, new)
            | t :: _ => some (s.symbol, firsts[t.symbol]?.getD .empty, false)
        | [] => none
      leadingSymbols firsts productionsOf fuel (entered ++ work) (found.setIfInBounds symbol (some new))

end PlainGrammar

/-- Two keys in the order in which their items are numbered, so that reductions are tried in the
order of their rules. -/
def ItemKey.before (a b : ItemKey) : Bool :=
  if a.dot != b.dot then a.dot < b.dot
  else if a.head != b.head then a.head < b.head
  else if a.preference != b.preference then a.preference < b.preference
  else if a.length != b.length then a.length < b.length
  else if a.level != b.level then
    match a.level, b.level with
    | none, _ => true
    | _, none => false
    | some x, some y => x < y
  else false

/-- The items of a grammar. -/
def ItemTable.ofGrammar (g : PlainGrammar) : ItemTable := Id.run do
  let within := g.fieldsWithin
  -- The whole text is an item of a symbol beyond all others.
  let whole : Production := ⟨g.symbols.size, [⟨g.start, none, none, none, none⟩], 0⟩
  let productions := g.productions.push whole
  let mut seen : Std.HashMap ItemKey Nat := {}
  let mut keys : Array (ItemKey × Nat) := #[]
  for (p, number) in productions.toList.zipIdx do
    for dot in [0:p.steps.length + 1] do
      let key := g.itemKey within p dot
      unless seen.contains key do
        seen := seen.insert key keys.size
        keys := keys.push (key, number)
  let sorted := (keys.toList.mergeSort fun a b => !b.1.before a.1).toArray
  seen := {}
  for ((key, _), number) in sorted.toList.zipIdx do
    seen := seen.insert key number
  let itemOf (p : Production) (dot : Nat) : Nat := (seen[g.itemKey within p dot]?).getD 0
  let items := sorted.map fun (key, number) =>
    let p := productions[number]?.getD whole
    { key
      production := number
      expected := key.rest.head?.map Step.symbol
      after := (key.rest.drop 1).head?.map Step.symbol
      next := if key.rest.isEmpty then 0 else itemOf p (key.dot + 1) : Item }
  let firsts := g.endSets List.head?
  let lasts := g.endSets List.getLast?
  let productionsOf := g.productions.foldl
    (fun table p => table.modify p.head (· ++ [p])) (Array.replicate g.symbols.size [])
  let expectations := (Array.range g.symbols.size).map fun symbol => Id.run do
    if symbol < g.terminalCount then return #[]
    let leading := g.leadingSymbols firsts productionsOf 1000000 [(symbol, .empty, true)]
      (Array.replicate g.symbols.size none)
    let mut merged : Array Expected := #[]
    let mut places : Std.HashMap Nat Nat := {}
    for (entry, first) in leading.toList.zipIdx do
      match entry with
      | none => pure ()
      | some (tokens, inherits) =>
        for p in productionsOf[first]?.getD [] do
          let item := itemOf p 0
          match places[item]? with
          | some place =>
            merged := merged.modify place fun e =>
              { e with tokens := e.tokens.union tokens, inherits := e.inherits || inherits }
          | none =>
            places := places.insert item merged.size
            merged := merged.push ⟨item, tokens, inherits⟩
    return merged
  return { grammar := g, items, firsts, lasts, expectations, startItem := itemOf whole 0 }

namespace ItemTable

variable (t : ItemTable)

/-- The item with a number. -/
def item (number : Nat) : Item := t.items[number]?.getD default

/-- The tokens that can start a symbol. -/
def first (symbol : Nat) : TokenSet := t.firsts[symbol]?.getD .empty

/-- A kernel with all the items that it expects next, in the order of their numbers. -/
def closure (kernel : Array LookItem) : Array LookItem := Id.run do
  let mut found : Array TokenSet := Array.replicate t.items.size .empty
  let mut members : Array Bool := Array.replicate t.items.size false
  for k in kernel do
    found := found.modify k.item (·.union k.tokens)
    members := members.setIfInBounds k.item true
    let item := t.item k.item
    match item.expected with
    | none => pure ()
    | some symbol =>
      let following := match item.after with
        | none => k.tokens
        | some after => t.first after
      for e in t.expectations[symbol]?.getD #[] do
        let tokens := if e.inherits then e.tokens.union following else e.tokens
        found := found.modify e.item (·.union tokens)
        members := members.setIfInBounds e.item true
  let mut result : Array LookItem := #[]
  for number in [0:t.items.size] do
    if members[number]?.getD false then
      result := result.push ⟨number, found[number]?.getD .empty⟩
  return result

end ItemTable

end EnergyAudit.Grammar
