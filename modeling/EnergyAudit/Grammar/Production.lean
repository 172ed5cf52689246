import EnergyAudit.Ascending
import EnergyAudit.Grammar.Rule
import EnergyAudit.Grammar.TokenSet
import Std.Data.HashMap

/-!
# Productions

A grammar in the plain form that automata are built from: numbered symbols and productions without
choices or repetitions.

A repetition becomes a rule of its own, which is either its body or two of itself.  Symbols are
numbered from the end of input, the word token and the other tokens in the order in which the
grammar mentions them, over the tokens of the layout scanner, to the rules and the repetitions.

## Main definitions

* `Step`, `Production` — the right-hand sides.
* `SymbolInfo` — how the nodes of a symbol appear.
* `PlainGrammar.ofGrammar` — the plain form.
* `PlainGrammar.childNames` — the kinds and names that a production gives its children.
-/

namespace EnergyAudit.Grammar

/-- One symbol of a production. -/
structure Step where
  symbol : Nat
  level : Option Int
  grouping : Option Associativity
  shownAs : Option String
  field : Option String
deriving BEq, Hashable

/-- One way to read a rule. -/
structure Production where
  /-- The symbol of the rule. -/
  head : Nat
  steps : List Step
  /-- How much this reading of an ambiguous text is preferred. -/
  preference : Int
deriving BEq, Hashable

/-- How the nodes of a symbol appear in the tree. -/
structure SymbolInfo where
  kind : String
  named : Bool
  visible : Bool
  /-- Whether the symbol is a repetition. -/
  repetition : Bool
  /-- Whether the symbol names a class of nodes. -/
  category : Bool
  /-- Whether the symbol is a rule whose nodes keep the names of their children to themselves. -/
  ownNode : Bool
deriving Inhabited

/-- The symbol of the end of input. -/
def endSymbol : Nat := 0

/-- The symbol of the word token. -/
def wordSymbol : Nat := 1

/-- What a production says about its children: the kinds they are shown as, up to the last child
that has one, and the names of fields with the child's number; a field is *inherited* when it is a
name within a hidden child. -/
structure ChildNames where
  shownAs : List (Option String)
  fields : List (String × Nat × Bool)
deriving BEq, Hashable, Inhabited

/-- A grammar in plain form. -/
structure PlainGrammar where
  symbols : Array SymbolInfo
  tokens : Array Token
  /-- The symbol of each token. -/
  tokenSymbols : Array Nat
  /-- The number of symbols that are not rules. -/
  terminalCount : Nat
  /-- The symbols of the layout scanner's tokens, in its own order. -/
  layoutSymbols : Array Nat
  /-- Those of them that the scanner alone finds. -/
  ownLayoutSymbols : TokenSet
  extras : TokenSet
  productions : Array Production
  start : Nat

/-! ### Repetitions -/

/-- The name of the rule for a repetition. -/
def repetitionName (number : Nat) : String := "repetition " ++ toString number

/-- Replaces the repetitions in a rule by rules of their own; equal repetitions share one. -/
def Rule.withoutRepetitions : Rule → StateM (Array Rule) Rule
  | .many body => do
    let body ← body.withoutRepetitions
    let known ← get
    match known.findIdx? (· == body) with
    | some number => return .symbol (repetitionName number)
    | none =>
      set (known.push body)
      return .symbol (repetitionName known.size)
  | .seq first second => return .seq (← first.withoutRepetitions) (← second.withoutRepetitions)
  | .choice left right => return .choice (← left.withoutRepetitions) (← right.withoutRepetitions)
  | .level value grouping body => return .level value grouping (← body.withoutRepetitions)
  | .preference value body => return .preference value (← body.withoutRepetitions)
  | .field name body => return .field name (← body.withoutRepetitions)
  | .shownAs kind body => return .shownAs kind (← body.withoutRepetitions)
  | r => return r

/-! ### Choices and sequences -/

/-- The alternatives of a rule, each without choices. -/
def Rule.alternatives : Rule → List Rule
  | .seq first second =>
    first.alternatives.flatMap fun a => second.alternatives.map fun b => .seq a b
  | .choice left right => left.alternatives ++ right.alternatives
  | .level value grouping body => body.alternatives.map (.level value grouping)
  | .preference value body => body.alternatives.map (.preference value)
  | .field name body => body.alternatives.map (.field name)
  | .shownAs kind body => body.alternatives.map (.shownAs kind)
  | r => [r]

/-- The tokens that a rule mentions by their text. -/
def Rule.literals : Rule → List String
  | .literal text => [text]
  | .seq first second => first.literals ++ second.literals
  | .choice left right => left.literals ++ right.literals
  | .many body | .level _ _ body | .preference _ body | .field _ body | .shownAs _ body =>
    body.literals
  | _ => []

/-- Changes the last step of a list. -/
def mapLast (change : Step → Step) : List Step → List Step
  | [] => []
  | [s] => [change s]
  | s :: rest => s :: mapLast change rest

/-- The stronger of two preferences, the first if they are equally strong. -/
def strongerPreference (p q : Int) : Int := if q.natAbs > p.natAbs then q else p

/-- The steps of a rule without choices, in the surroundings that `context` describes, with the
rule's preference.  A level holds up to the end of its rule, where it becomes the level of the last
step; before the end of the production the surrounding level takes over after that step. -/
def Rule.steps (number : Rule → Nat) (context : Step) (atEnd : Bool) : Rule → List Step × Int
  | .seq first second =>
    let (xs, p) := first.steps number context false
    let (ys, q) := second.steps number context atEnd
    (xs ++ ys, strongerPreference p q)
  | .level value grouping body =>
    let inner := { context with level := some value, grouping := grouping.or context.grouping }
    let (xs, p) := body.steps number inner atEnd
    if atEnd then (xs, p)
    else
      let restore (s : Step) : Step :=
        { s with level := context.level
                 grouping := if grouping.isSome then context.grouping else s.grouping }
      (mapLast restore xs, p)
  | .preference value body =>
    let (xs, p) := body.steps number context atEnd
    (xs, strongerPreference value p)
  | .field name body => body.steps number { context with field := some name } atEnd
  | .shownAs kind body => body.steps number { context with shownAs := some kind } atEnd
  | .blank => ([], 0)
  | r => ([{ context with symbol := number r }], 0)

/-- The steps and preferences of all alternatives of a rule, each once. -/
def Rule.readings (number : Rule → Nat) (r : Rule) : List (List Step × Int) :=
  (r.alternatives.map fun a => a.steps number ⟨0, none, none, none, none⟩ true).eraseDups

/-- Writes out the inlined rules within a production, which `readings` gives by their symbols.
The steps before `rest` are done, in reverse. -/
def writeOut (readings : Nat → Option (List (List Step × Int))) :
    Nat → List Step → List Step → Int → List (List Step × Int)
  | 0, done, rest, preference => [(done.reverse ++ rest, preference)]
  | _ + 1, done, [], preference => [(done.reverse, preference)]
  | fuel + 1, done, step :: rest, preference =>
    match readings step.symbol with
    | none => writeOut readings fuel (step :: done) rest preference
    | some alternatives =>
      alternatives.flatMap fun (steps, p) =>
        let steps := steps.map fun s =>
          { s with shownAs := step.shownAs.or s.shownAs, field := step.field.or s.field }
        let steps := mapLast (fun s =>
          { s with level := s.level.or step.level, grouping := s.grouping.or step.grouping }) steps
        writeOut readings fuel done (steps ++ rest) (strongerPreference preference p)

/-! ### The plain form -/

/-- The tokens of a grammar in the order in which it mentions them. -/
def tokenList (g : Grammar) : List Token :=
  g.definitions.foldl (fun tokens d =>
    let found := match d with
      | .token t => [t]
      | .rule _ _ body => body.literals.map Token.ofText
    found.foldl (fun tokens t =>
      if tokens.any (fun u => u.name == t.name && u.named == t.named) then tokens
      else tokens ++ [t]) tokens) []

/-- The rules of a grammar, without its tokens. -/
def ruleList (g : Grammar) : List (String × Visibility × Rule) :=
  g.definitions.filterMap fun d => match d with
    | .rule name visibility body => some (name, visibility, body)
    | .token _ => none

/-- Rules without repetitions, and the rules that stand for those. -/
def withoutRepetitions (rules : List (String × Visibility × Rule)) :
    List (String × Visibility × Rule) :=
  let step (rule : String × Visibility × Rule) :
      StateM (Array Rule) (String × Visibility × Rule) := do
    return (rule.1, rule.2.1, ← rule.2.2.withoutRepetitions)
  let (rules, repetitions) := (rules.mapM step).run #[]
  let own := repetitions.toList.mapIdx fun number body =>
    let self := Rule.symbol (repetitionName number)
    (repetitionName number, Visibility.repetition, Rule.choice (.seq self self) body)
  rules ++ own

/-- How the nodes of a rule appear. -/
def SymbolInfo.ofRule (name : String) : Visibility → SymbolInfo
  | .node => ⟨name, true, true, false, false, true⟩
  | .nodeNamed kind named isOpen => ⟨kind, named, true, false, false, !isOpen⟩
  | .category => ⟨name, true, false, false, true, false⟩
  | .repetition => ⟨name, false, false, true, false, false⟩
  | _ => ⟨name, true, false, false, false, false⟩

/-- The plain form of a grammar. -/
def PlainGrammar.ofGrammar (g : Grammar) : PlainGrammar := Id.run do
  let tokens := g.tokenList
  let (words, others) := tokens.partition fun t => t.named && t.name == g.wordToken
  let ordered := words ++ others
  let (inlined, kept) := (withoutRepetitions g.ruleList).partition fun (_, visibility, _) =>
    visibility == .inlined
  -- Numbers of symbols.
  let mut byName : Std.HashMap String Nat := {}
  let mut byText : Std.HashMap String Nat := {}
  let mut symbols : Array SymbolInfo := #[⟨"end", true, false, false, false, false⟩]
  for token in ordered do
    if token.named || !token.visible then byName := byName.insert token.name symbols.size
    else byText := byText.insert token.name symbols.size
    symbols := symbols.push ⟨token.name, token.named, token.visible, false, false, false⟩
  let mut layoutSymbols : Array Nat := #[]
  let mut ownLayoutSymbols := TokenSet.empty
  for token in g.layoutTokens do
    match token with
    | .own name visible =>
      byName := byName.insert name symbols.size
      layoutSymbols := layoutSymbols.push symbols.size
      ownLayoutSymbols := ownLayoutSymbols.insert symbols.size
      symbols := symbols.push ⟨name, true, visible, false, false, false⟩
    | .shared name =>
      layoutSymbols := layoutSymbols.push ((byText[name]?.or byName[name]?).getD 0)
  let terminalCount := symbols.size
  for (name, visibility, _) in kept do
    byName := byName.insert name symbols.size
    symbols := symbols.push (.ofRule name visibility)
  let symbolCount := symbols.size
  for ((name, _, _), number) in inlined.zipIdx do
    byName := byName.insert name (symbolCount + number)
  -- Productions.
  let number (r : Rule) : Nat := match r with
    | .symbol name => byName[name]?.getD 0
    | .literal text => byText[text]?.getD 0
    | _ => 0
  let written := inlined.toArray.map fun (_, _, body) => body.readings number
  let readings (symbol : Nat) : Option (List (List Step × Int)) :=
    if symbol < symbolCount then none else written[symbol - symbolCount]?
  let mut productions : Array Production := #[]
  for ((_, _, body), head) in kept.zipIdx do
    let plain := (body.readings number).flatMap fun (steps, preference) =>
      writeOut readings 64 [] steps preference
    for (steps, preference) in plain.eraseDups do
      productions := productions.push ⟨terminalCount + head, steps, preference⟩
  return {
    symbols
    tokens := tokens.toArray
    tokenSymbols := tokens.toArray.map fun t =>
      ((if t.named || !t.visible then byName else byText)[t.name]?).getD 0
    terminalCount
    layoutSymbols
    ownLayoutSymbols
    extras := .ofList (g.extras.map fun name => byName[name]?.getD 0)
    productions
    start := terminalCount }

namespace PlainGrammar

variable (g : PlainGrammar)

/-- What is known of a symbol. -/
def info (symbol : Nat) : SymbolInfo := g.symbols[symbol]?.getD default

/-- Whether a symbol is a rule whose nodes share the names of their children with the node above. -/
def isHiddenRule (symbol : Nat) : Bool :=
  g.terminalCount ≤ symbol && !(g.info symbol).ownNode

/-- One round of collecting the field names within each symbol. -/
def collectFields (fields : Array (List String)) : Array (List String) :=
  g.productions.foldl (fun fields p =>
    let found := p.steps.flatMap fun s =>
      s.field.toList ++ (if g.isHiddenRule s.symbol then fields[s.symbol]?.getD [] else [])
    fields.modify p.head (Ascending.union found)) fields

/-- The field names within the nodes of each symbol, those within hidden children included. -/
def fieldsWithin : Array (List String) :=
  let rec go : Nat → Array (List String) → Array (List String)
    | 0, fields => fields
    | fuel + 1, fields =>
      let next := g.collectFields fields
      if next == fields then fields else go fuel next
  go g.symbols.size (Array.replicate g.symbols.size [])

/-- The kinds and names that a production gives its children. -/
def childNames (within : Array (List String)) (p : Production) : ChildNames :=
  let shownAs := (p.steps.map Step.shownAs).reverse.dropWhile Option.isNone |>.reverse
  let fields := p.steps.zipIdx.flatMap fun (s, number) =>
    (s.field.toList.map fun name => (name, number, false)) ++
      (if g.isHiddenRule s.symbol then
        (within[s.symbol]?.getD []).map fun name => (name, number, true)
      else [])
  ⟨shownAs, fields⟩

end PlainGrammar

end EnergyAudit.Grammar
