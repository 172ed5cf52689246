import EnergyAudit.Parsing.Recovery

/-!
# Parsing

Reads a text to its end with all versions of the stack, each as far as the one that is furthest, and
gives up versions on the way that are much worse than others.

## Main definitions

* `Parser.advance` — takes a version over one token, or finds that it cannot go on.
* `Parser.condense` — compares all versions and keeps the best.
* `parse` — the tree of a text.
-/

namespace EnergyAudit.Parsing

open EnergyAudit.Grammar

namespace Parser

variable {σ : Type} [BEq σ]

/-! ### Advancing one version -/

/-- Puts a token on top of a version. -/
def shift (v state : Nat) (token : Fragment σ) (isExtra : Bool) (p : Parser σ) : Parser σ :=
  let stack := p.stack.push v (some { token with isExtra }) state
  if token.layout.isSome then
    { p with stack := stack.modify v fun version => { version with layout := token.layout } }
  else { p with stack }

/-- What became of a version on a token. -/
inductive Outcome (σ : Type) where
  /-- The token has been dealt with. -/
  | done (p : Parser σ)
  /-- Rules have been made, and this is one of the versions that came out of it. -/
  | reduced (version : Nat) (p : Parser σ)
  /-- There was nothing to do. -/
  | stuck (p : Parser σ)

/-- Follows the actions on a token: all reductions, up to an action that deals with the token. -/
def follow (t : ParseTable) (v : Nat) (token : Fragment σ) :
    List Action → Option Nat → Parser σ → Outcome σ
  | [], none, p => .stuck p
  | [], some version, p => .reduced version p
  | .shift state repetition :: rest, made, p =>
    if repetition then follow t v token rest made p else .done (p.shift v state token false)
  | .extra :: _, _, p => .done (p.shift v (p.stack.top v).state token true)
  | .reduce symbol count preference names :: rest, made, p =>
    let (stack, fresh) := p.stack.reduce t v symbol count preference names
    follow t v token rest (fresh.or made) { p with stack }
  | .accept :: _, _, p => .done (p.accept t v token)
  | .recover :: _, _, p => .done (p.recover t v token)

/-- Takes a version over a token that comes next.  A keyword that does not fit is read as a word.
A version that cannot go on is paused.  Each round makes one rule. -/
def takeToken (t : ParseTable) (v : Nat) : Nat → Fragment σ → List Action → Parser σ → Parser σ
  | 0, _, _, p => p
  | fuel + 1, token, actions, p =>
    match follow t v token actions none p with
    | .done p => p
    | .reduced version p =>
      let stack := p.stack.replace version v
      takeToken t v fuel token (t.actions (stack.top v).state token.firstToken) { p with stack }
    | .stuck p =>
      let state := (p.stack.top v).state
      let asWord := if token.isKeyword && token.symbol != wordSymbol then
          t.actions state wordSymbol
        else []
      if !asWord.isEmpty then
        let word := { token with
          symbol := wordSymbol
          firstToken := wordSymbol
          isVisible := t.isVisible wordSymbol }
        takeToken t v fuel word asWord p
      else if state == errorState then p.recover t v token
      else
        let nodes := (p.stack.top v).nodeCount
        { p with stack := p.stack.modify v fun version =>
            { version with status := .paused token, nodesAtError := nodes } }

/-- The number of rules that are made before one token at most. -/
def roundLimit : Nat := 1000000000

/-- Whether two states look for the same tokens. -/
def readAlike (t : ParseTable) (a b : Nat) : Bool :=
  t.lexing.starts[a]? == t.lexing.starts[b]? && t.layoutSets[a]? == t.layoutSets[b]?

/-- The token that has been read last, if it serves another version at the same place: its state looks
for the same tokens and has actions for this one.  A word serves only the state that it was read in,
and none if it could be a keyword. -/
def recentToken? (t : ParseTable) (site : Site σ) (p : Parser σ) : Option (Fragment σ) := do
  let (old, token) ← p.recent
  if old.position == site.position && old.layout == site.layout &&
      !(t.actions site.state token.symbol).isEmpty && readAlike t old.state site.state &&
      (token.symbol != wordSymbol || (!token.isKeyword && old.state == site.state)) then
    some token
  else none

/-- Reads one token with a version. -/
def advance (r : Reader σ) (v : Nat) (p : Parser σ) : Parser σ :=
  let top := p.stack.top v
  let site : Site σ :=
    { state := top.state
      position := top.place.bytes
      layout := (p.stack.version v).layout
      advanced := p.stack.hasAdvanced v }
  match p.recentToken? r.table site with
  | some token =>
    takeToken r.table v roundLimit token (r.table.actions top.state token.symbol) p
  | none =>
    let token := r.token site
    let p := { p with recent := some (site, token) }
    takeToken r.table v roundLimit token (r.table.actions top.state token.symbol) p

/-- Advances a version until it is beyond a place, or there if `reaching` holds.  Gives the place it
has come to. -/
def advanceBeyond (r : Reader σ) (v : Nat) (reaching : Bool) :
    Nat → Nat → Parser σ → Parser σ × Nat
  | 0, place, p => (p, place)
  | fuel + 1, place, p =>
    if !(p.stack.version v).isActive then (p, place)
    else
      let p := p.advance r v
      let reached := (p.stack.top v).place.bytes
      if place < reached || (reaching && reached == place) then (p, reached)
      else advanceBeyond r v reaching fuel place p

/-- Advances all versions from one on in their turn. -/
def advanceAll (r : Reader σ) (limit : Nat) : Nat → Nat → Nat → Parser σ → Parser σ × Nat
  | 0, _, place, p => (p, place)
  | fuel + 1, v, place, p =>
    if p.stack.size ≤ v then (p, place)
    else
      let (p, place) := advanceBeyond r v (0 < v) limit place p
      advanceAll r limit fuel (v + 1) place p

/-! ### Comparing all versions -/

/-- Compares version `v`, which stands as `own`, with those before it from `w` on.  Versions at the
same point are joined, the better one comes first, and one that is much worse is dropped.  Gives the
place up to which versions have been compared. -/
def rankAgainst (own : Standing) : Nat → Nat → Nat → Stack σ → Stack σ × Nat
  | 0, _, v, s => (s, v)
  | fuel + 1, w, v, s =>
    if v ≤ w then (s, v)
    else
      let (other, s) := s.standing w
      match other.compare own with
      | .first => (s.remove v, v - 1)
      | .second => rankAgainst own fuel w (v - 1) (s.remove w)
      | .preferSecond => match s.merge? w v with
        | some s => (s, v - 1)
        | none => rankAgainst own fuel (w + 1) v (s.swap v w)
      | _ => match s.merge? w v with
        | some s => (s, v - 1)
        | none => rankAgainst own fuel (w + 1) v s

/-- Compares all versions from `v` on with those before them.  Gives the least cost of a version
that is not in error. -/
def rankAll : Nat → Nat → Option Nat → Stack σ → Stack σ × Option Nat
  | 0, _, least, s => (s, least)
  | fuel + 1, v, least, s =>
    if s.size ≤ v then (s, least)
    else if (s.version v).isHalted then rankAll fuel v least (s.remove v)
    else
      let (own, s) := s.standing v
      let least := if own.isInError then least
        else some (match least with
          | none => own.cost
          | some cost => min cost own.cost)
      let (s, v) := rankAgainst own (2 * s.size) 0 v s
      rankAll fuel (v + 1) least s

/-- Deals with the paused versions among the first `count`: if no version goes on, the first paused
one meets its error, unless the text has been read often enough; the others are dropped. -/
def resume (t : ParseTable) : Nat → Nat → Bool → Option Nat → Parser σ → Parser σ × Option Nat
  | 0, _, _, least, p => (p, least)
  | count + 1, v, goesOn, least, p =>
    match (p.stack.version v).status with
    | .paused next =>
      if !goesOn && p.accepted < versionLimit then
        let cost := p.stack.errorCost v
        let stack := p.stack.modify v fun version => { version with status := .active }
        resume t count (v + 1) true (some cost) (handleError t v next { p with stack })
      else resume t count v goesOn least { p with stack := p.stack.remove v }
    | _ => resume t count (v + 1) true least p

/-- Compares all versions, keeps the best and lets one meet its error if none goes on.  Gives the
least cost of a version. -/
def condense (t : ParseTable) (p : Parser σ) : Parser σ × Option Nat :=
  let (stack, least) := rankAll (4 * p.stack.size + 4) 0 none p.stack
  let stack := { stack with versions := stack.versions.take versionLimit }
  resume t stack.size 0 false least { p with stack }

/-! ### The whole text -/

/-- Reads on until the best tree cannot be improved or no version is left.  Each round takes one
unit of fuel. -/
def run (r : Reader σ) : Nat → Nat → Parser σ → Option (Fragment σ)
  | 0, _, p => p.finished
  | fuel + 1, place, p =>
    let (p, place) := advanceAll r fuel (fuel + 1) 0 place p
    let (p, least) := condense r.table p
    let isDone := match p.finished, least with
      | none, _ => false
      | some _, none => true
      | some f, some cost => decide (f.cost < cost)
    if isDone || p.stack.size == 0 then p.finished else run r fuel place p

end Parser

/-- The tree of a text.  The number of rounds that a text takes is far below the bound, which grows
with its length. -/
def parse {σ : Type} [BEq σ] (r : Reader σ) : Option (Fragment σ) :=
  Parser.run r (100000 + 1000 * r.source.size) 0 ⟨.initial, none, 0, none⟩

end EnergyAudit.Parsing
