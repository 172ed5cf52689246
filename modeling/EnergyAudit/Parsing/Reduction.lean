import EnergyAudit.Parsing.Stack

/-!
# Reductions

Taking the children of a rule off the stack and putting the rule in their place, and comparing the
versions of the stack that come out of this.

## Main definitions

* `Stack.reduce` — makes a rule of the last fragments of a version.
* `Stack.reduceFully` — makes all the rules that can be made before a token.
* `Standing.compare` — which of two versions is ahead.
-/

namespace EnergyAudit.Parsing

open EnergyAudit.Grammar

/-- The number of versions that are followed at once. -/
def versionLimit : Nat := 6

/-- The number of versions beyond the limit that may arise from one reduction. -/
def versionOverflow : Nat := 4

/-- A rule made of fragments, with the fragments behind it that may stand anywhere. -/
structure Reduced (σ : Type) where
  fragment : Fragment σ
  extras : Array (Fragment σ)

namespace Stack

variable {σ : Type} [BEq σ]

/-- The rule made of the fragments of one slice. -/
def reducedFrom (t : ParseTable) (symbol names : Nat) (slice : Slice σ) : Reduced σ :=
  let (children, extras) := Fragment.splitTrailingExtras slice.fragments.toArray
  ⟨.ofChildren t symbol children names, extras⟩

/-- The best rule made of the fragments of slices with the same remains. -/
def bestReduced (t : ParseTable) (symbol names : Nat) (first : Slice σ) (others : List (Slice σ)) :
    Reduced σ :=
  others.foldl (fun best slice =>
    if Fragment.isBetter best.fragment (reducedFrom t symbol 0 slice).fragment then
      reducedFrom t symbol names slice
    else best) (reducedFrom t symbol names first)

/-- Joins a version to the first one before it, other than `apartFrom`, that is at the same
point. -/
def mergeBefore (v apartFrom : Nat) (s : Stack σ) : Option (Stack σ) :=
  (List.range v).findSome? fun w => if w == apartFrom then none else s.merge? w v

/-- Puts rules in the place of the fragments taken off version `v`, for all remaining versions.
`removed` is the number of versions dropped since the fragments were taken off. -/
def putBack (t : ParseTable) (v symbol names : Nat) (preference : Int) :
    List (List (Slice σ)) → Nat → Stack σ → Stack σ
  | [], _, s => s
  | [] :: groups, removed, s => putBack t v symbol names preference groups removed s
  | (first :: others) :: groups, removed, s =>
    let version := first.version - removed
    if version > versionLimit + versionOverflow then
      putBack t v symbol names preference groups (removed + 1) (s.remove version)
    else
      let reduced := bestReduced t symbol names first others
      let fragment := { reduced.fragment with
        preference := reduced.fragment.preference + preference }
      let next := t.nextState (s.top version).state symbol
      let s := s.push version (some fragment) next
      let s := reduced.extras.foldl (fun s extra => s.push version (some extra) next) s
      match s.mergeBefore version v with
      | some merged => putBack t v symbol names preference groups (removed + 1) merged
      | none => putBack t v symbol names preference groups removed s

/-- Makes a rule of the last fragments of a version, in every possible way.  Gives the first of the
versions that come out of it, if there are any. -/
def reduce (t : ParseTable) (v symbol count : Nat) (preference : Int) (names : Nat) (s : Stack σ) :
    Stack σ × Option Nat :=
  let before := s.size
  let (slices, s) := s.popCount v count
  let groups := slices.toList.splitBy fun a b => a.version == b.version
  let s := putBack t v symbol names preference groups 0 s
  (s, if s.size > before then some before else none)

/-- The reductions of a state on some tokens, each once, and whether it takes one of the tokens. -/
def reductionsOn (t : ParseTable) (state : Nat) (tokens : List Nat) : List Action × Bool :=
  tokens.foldl (fun found token =>
    (t.actions state token).foldl (fun (reductions, takes) action => match action with
      | .shift _ repetition => (reductions, takes || !repetition)
      | .recover => (reductions, true)
      | .reduce symbol count _ _ =>
        let known := reductions.any fun r => match r with
          | .reduce symbol' count' _ _ => symbol == symbol' && count == count'
          | _ => false
        (if count == 0 || known then reductions else reductions ++ [action], takes)
      | _ => (reductions, takes)) found) ([], false)

/-- Makes all the rules that can be made of a version before one of some tokens, and of the versions
that come out of it from `first` on.  Versions that cannot take the token afterwards are dropped if
`drops` holds.  Says whether any version can take it.  `round` counts the reductions. -/
def reduceFrom (t : ParseTable) (tokens : List Nat) (drops : Bool) (start first : Nat) :
    Nat → Nat → Nat → Bool → Stack σ → Stack σ × Bool
  | 0, _, _, takes, s => (s, takes)
  | fuel + 1, round, v, takes, s =>
    let size := s.size
    if size ≤ v then (s, takes)
    else
      let merged := ((List.range v).drop first).findSome? fun w => s.merge? w v
      match merged with
      | some s => reduceFrom t tokens drops start first fuel (round + 1) v takes s
      | none =>
        let (reductions, takesOne) := reductionsOn t (s.top v).state tokens
        let (s, made) := reductions.foldl (fun (s, made) action => match action with
          | .reduce symbol count preference names => s.reduce t v symbol count preference names
          | _ => (s, made)) (s, none)
        let next := if v == start then size else v + 1
        if takesOne then reduceFrom t tokens drops start first fuel (round + 1) next true s
        else match (if round < versionLimit then made else none) with
          | some version =>
            reduceFrom t tokens drops start first fuel (round + 1) v takes (s.replace version v)
          | none =>
            let s := if drops then s.remove v else s
            reduceFrom t tokens drops start first fuel (round + 1) next takes s

/-- Makes all the rules that can be made of a version before a token; at the end of the text, before
any token. -/
def reduceFully (t : ParseTable) (v token : Nat) (s : Stack σ) : Stack σ × Bool :=
  let atEnd := token == endSymbol
  let tokens := if atEnd then (List.range t.terminalCount).drop 1 else [token]
  reduceFrom t tokens (!atEnd) v s.size 100000 0 v false s

end Stack

/-! ### Comparing versions -/

/-- What versions are compared by. -/
structure Standing where
  cost : Nat
  nodes : Nat
  preference : Int
  isInError : Bool

/-- The outcome of a comparison: one of two versions is so far ahead that the other is given up, or
is preferred if they come to the same point, or they are equal. -/
inductive Lead where
  | first
  | preferFirst
  | even
  | preferSecond
  | second
deriving BEq

/-- The difference in cost at which a version is given up, before the nodes that it has read. -/
def costMargin : Nat := 1800

/-- Compares two versions. -/
def Standing.compare (a b : Standing) : Lead :=
  if !a.isInError && b.isInError then (if a.cost < b.cost then .first else .preferFirst)
  else if a.isInError && !b.isInError then (if b.cost < a.cost then .second else .preferSecond)
  else if a.cost < b.cost then
    if (b.cost - a.cost) * (1 + a.nodes) > costMargin then .first else .preferFirst
  else if b.cost < a.cost then
    if (a.cost - b.cost) * (1 + b.nodes) > costMargin then .second else .preferSecond
  else if a.preference > b.preference then .preferFirst
  else if b.preference > a.preference then .preferSecond
  else .even

namespace Stack

variable {σ : Type}

/-- The standing of a version; one that waits for error recovery counts as in error.  From now on
its nodes are counted from where it stands, should it have fallen behind its last error. -/
def standing (v : Nat) (s : Stack σ) : Standing × Stack σ :=
  let s := s.settle v
  let isPaused := (s.version v).isPaused
  let top := s.top v
  ({ cost := s.errorCost v + (if isPaused then skippedNodeCost else 0)
     nodes := s.nodesSinceError v
     preference := top.preference
     isInError := isPaused || top.state == errorState }, s)

/-- Whether some version of a list makes it pointless for version `v` to go on. -/
def betterAmong [BEq σ] (v : Nat) (own : Standing) (place : Nat) :
    List Nat → Stack σ → Bool × Stack σ
  | [], s => (false, s)
  | w :: rest, s =>
    if w == v || !(s.version w).isActive || (s.top w).place.bytes < place then
      betterAmong v own place rest s
    else
      let (other, s) := s.standing w
      let isBetter := match own.compare other with
        | .second => true
        | .preferSecond => s.canMerge w v
        | _ => false
      if isBetter then (true, s) else betterAmong v own place rest s

/-- Whether the finished tree or some other version makes it pointless for version `v` to go on at a
cost. -/
def betterExists [BEq σ] (finished : Option (Fragment σ)) (v : Nat) (isInError : Bool) (cost : Nat)
    (s : Stack σ) : Bool × Stack σ :=
  if (finished.map fun f => decide (f.cost ≤ cost)).getD false then (true, s)
  else
    let s := s.settle v
    let top := s.top v
    betterAmong v ⟨cost, s.nodesSinceError v, top.preference, isInError⟩ top.place.bytes
      (List.range s.size) s

end Stack

end EnergyAudit.Parsing
