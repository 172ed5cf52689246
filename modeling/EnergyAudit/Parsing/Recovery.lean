import EnergyAudit.Parsing.Reduction
import EnergyAudit.Parsing.TokenReader

/-!
# Error recovery

A version that cannot go on tries to make do with a token more than the text has.  Otherwise it
either returns to a state further down that can take the next token, giving up what it has read
since, or skips the token.

## Main definitions

* `Parser` — the versions of the stack and the best tree so far.
* `Parser.accept` — a version that has read the whole text.
* `Parser.recover` — returns to an earlier state or skips a token.
* `Parser.handleError` — what is done where a version cannot go on.
-/

namespace EnergyAudit.Parsing

open EnergyAudit.Grammar

/-- A parser at work. -/
structure Parser (σ : Type) where
  stack : Stack σ
  /-- The best tree of the whole text so far. -/
  finished : Option (Fragment σ)
  /-- The number of trees of the whole text that have been found. -/
  accepted : Nat
  /-- The token that has been read last, with the site that it was read at. -/
  recent : Option (Site σ × Fragment σ)

/-- How deep error recovery looks for a state to return to. -/
def landmarkDepth : Nat := 16

namespace Parser

variable {σ : Type} [BEq σ]

/-- Drops the versions from `first` on that have ended. -/
def dropHalted (first : Nat) (s : Stack σ) : Stack σ :=
  { s with versions := s.versions.take first ++
      (s.versions.drop first).filter Version.isActive }

/-! ### The end of the text -/

/-- The tree made of all fragments of the text: the last one that is no extra takes the others
in. -/
def rootOf (t : ParseTable) (fragments : List (Fragment σ)) : Option (Fragment σ) :=
  let behind := (fragments.reverse.takeWhile Fragment.isExtra).reverse
  let others := fragments.take (fragments.length - behind.length)
  match others.getLast? with
  | none => none
  | some root =>
    let children := others.dropLast.toArray ++ root.children ++ behind.toArray
    some (.ofChildren t root.symbol children root.names)

/-- Ends a version at the end of the text, and keeps its tree if it is the best one. -/
def accept (t : ParseTable) (v : Nat) (next : Fragment σ) (p : Parser σ) : Parser σ :=
  let (slices, stack) := (p.stack.push v (some next) startState).popAll v
  let p := slices.foldl (fun p slice =>
    match rootOf t slice.fragments, p.finished with
    | none, _ => p
    | some root, none => { p with finished := some root, accepted := p.accepted + 1 }
    | some root, some old =>
      { p with
        finished := some (if Fragment.isBetter old root then root else old)
        accepted := p.accepted + 1 }) { p with stack }
  let stack := match slices[0]? with
    | some slice => p.stack.remove slice.version
    | none => p.stack
  { p with stack := stack.halt v }

/-! ### Returning to an earlier state -/

/-- Turns slices taken off version `v` into skipped text on top of the state `goal`.  Slices that
leave another state are given up.  Says whether any is left. -/
def skipSlices (t : ParseTable) (goal : Nat) :
    List (Slice σ) → Option Nat → Stack σ → Stack σ × Bool
  | [], last, s => (s, last.isSome)
  | slice :: rest, last, s =>
    if last == some slice.version then skipSlices t goal rest last s
    else if (s.top slice.version).state != goal then
      skipSlices t goal rest last (s.halt slice.version)
    else
      let (errors, s) := s.popError slice.version
      let before := (errors.head?.map fun f => f.children.toList).getD []
      let (skipped, extras) := Fragment.splitTrailingExtras (before ++ slice.fragments).toArray
      let s := if skipped.isEmpty then s
        else
          let error := { Fragment.ofChildren t errorSymbol skipped 0 with isExtra := true }
          s.push slice.version (some error) goal
      let s := extras.foldl (fun s extra => s.push slice.version (some extra) goal) s
      skipSlices t goal rest (some slice.version) s

/-- Returns a version to the state `goal`, so many fragments down. -/
def returnTo (t : ParseTable) (v depth goal : Nat) (s : Stack σ) : Stack σ × Bool :=
  let (slices, s) := s.popCount v depth
  skipSlices t goal slices.toList none s

/-- Returns a version to the first of some landmarks from which the next token can be taken.  Tells
whether there is one. -/
def returnToAny (t : ParseTable) (v : Nat) (next : Fragment σ) (isBehind : Bool) (cost : Nat)
    (versions : Nat) (finished : Option (Fragment σ)) :
    List Landmark → Stack σ → Stack σ × Bool
  | [], s => (s, false)
  | landmark :: rest, s =>
    let place := (s.top v).place
    let isKnown := (List.range versions).any fun w =>
      let top := s.top w
      top.state == landmark.state && top.place.bytes == place.bytes
    if landmark.state == errorState || landmark.place.bytes == place.bytes || isKnown then
      returnToAny t v next isBehind cost versions finished rest s
    else
      let total := cost + (place.bytes - landmark.place.bytes) * skippedByteCost +
        (place.rows - landmark.place.rows) * skippedLineCost
      let (pointless, s) := s.betterExists finished v false total
      if pointless then (s, false)
      else if (t.actions landmark.state next.symbol).isEmpty then
        returnToAny t v next isBehind cost versions finished rest s
      else
        let depth := if isBehind then landmark.depth + 1 else landmark.depth
        match returnTo t v depth landmark.state s with
        | (s, true) => (s, true)
        | (s, false) => returnToAny t v next isBehind cost versions finished rest s

/-! ### Skipping a token -/

/-- Skips the next token of a version: it becomes part of the skipped text on top. -/
def skipToken (t : ParseTable) (v : Nat) (next : Fragment σ) (isBehind : Bool) (s : Stack σ) :
    Stack σ :=
  let next := if t.takesAsExtra startState next.symbol then { next with isExtra := true } else next
  let row := Fragment.ofChildren t errorRowSymbol #[next] 0
  let (row, s) :=
    if !isBehind then (row, s)
    else
      let (slices, s) := s.popCount v 1
      match slices[0]? with
      | none => (row, s)
      | some slice =>
        let s := if slices.size > 1 then
            { s with versions := s.versions.take (slice.version + 1) }
          else s
        (.ofChildren t errorRowSymbol (slice.fragments ++ [row]).toArray 0,
          s.replace slice.version v)
  let s := s.push v (some row) errorState
  if next.layout.isSome then s.modify v fun version => { version with layout := next.layout } else s

/-- Goes on behind an error: at an earlier state from which the next token can be taken, and beside
this, unless there are too many versions or the token changes the layout, by skipping it. -/
def recover (t : ParseTable) (v : Nat) (next : Fragment σ) (p : Parser σ) : Parser σ :=
  let stack := p.stack.settle v
  let versions := stack.size
  let isBehind := stack.nodesSinceError v > 0
  let cost := stack.errorCost v
  let landmarks := if next.isError then #[] else (stack.version v).landmarks.getD #[]
  let (stack, returned) :=
    returnToAny t v next isBehind cost versions p.finished landmarks.toList stack
  let stack := dropHalted versions stack
  if returned && (stack.size > versionLimit || next.changesLayout) then
    { p with stack := stack.halt v }
  else if next.symbol == endSymbol then
    let stack := stack.push v (some (.ofChildren t errorSymbol #[] 0)) startState
    accept t v next { p with stack }
  else
    let total := cost + skippedNodeCost + next.extent.bytes * skippedByteCost +
      next.extent.rows * skippedLineCost
    let (pointless, stack) := stack.betterExists p.finished v false total
    if pointless then { p with stack := stack.halt v }
    else { p with stack := skipToken t v next isBehind stack }

/-! ### Meeting an error -/

/-- Adds a version that makes do with a missing token, if there is one behind which the next token
can be taken.  Tells whether there is. -/
def supplyMissing (t : ParseTable) (v nextToken : Nat) : List Nat → Stack σ → Stack σ × Bool
  | [], s => (s, false)
  | token :: rest, s =>
    let state := (s.top v).state
    let after := t.nextState state token
    if after == 0 || after == state || !t.reducesOn after nextToken then
      supplyMissing t v nextToken rest s
    else
      let fresh := s.size
      let s := (s.copy v).push fresh (some (.missing t token)) after
      match s.reduceFully t fresh nextToken with
      | (s, true) => (s, true)
      | (s, false) => supplyMissing t v nextToken rest s

/-- Puts all versions of a list into the state of error recovery. -/
def enterRecovery (t : ParseTable) (nextToken : Nat) : List Nat → Bool → Stack σ → Stack σ
  | [], _, s => s
  | v :: rest, supplied, s =>
    let (s, supplied) := if supplied then (s, true)
      else supplyMissing t v nextToken ((List.range t.terminalCount).drop 1) s
    enterRecovery t nextToken rest supplied (s.push v none errorState)

/-- What is done where a version cannot go on: all rules are made that can be made, and what comes
out of this is joined in the state of error recovery. -/
def handleError (t : ParseTable) (v : Nat) (next : Fragment σ) (p : Parser σ) : Parser σ :=
  let before := p.stack.size
  let (stack, _) := p.stack.reduceFully t v endSymbol
  let fresh := (List.range stack.size).drop before
  let stack := enterRecovery t next.firstToken (v :: fresh) false stack
  let stack := fresh.foldl (fun s _ => (s.merge? v before).getD s) stack
  recover t v next { p with stack := stack.recordLandmarks v landmarkDepth }

end Parser

end EnergyAudit.Parsing
