import EnergyAudit.Ascending
import EnergyAudit.Grammar.Pattern

/-!
# The token automaton

All token patterns as one nondeterministic automaton, and what it says about pairs of tokens:
whether one can be mistaken for the other when both are looked for at the same place.

## Main definitions

* `TokenAutomaton.ofTokens` — the automaton; blanks may precede every token but those that must
  follow immediately.
* `Move` — what reading a letter does to a set of cells.
* `Overlap` — the ways in which a token competes with another, computed by
  `TokenAutomaton.overlap` from the texts that both can start with.
-/

namespace EnergyAudit.Grammar

/-- The patterns of all tokens in one automaton.  The cells of a token stand together, and a cell
set is given by its *leaves*, the cells other than splits, in increasing order. -/
structure TokenAutomaton where
  tokens : Array Token
  cells : Array Cell
  /-- The first cell of each token. -/
  starts : Array Nat
  /-- The token each cell belongs to. -/
  owners : Array Nat
  /-- The leaves that each cell reaches without a letter. -/
  leaves : Array (List Nat)

/-- The leaves reachable from a work list without reading a letter. -/
def leavesFrom (cells : Array Cell) : Nat → List Nat → List Nat → List Nat → List Nat
  | 0, _, _, found => found
  | _ + 1, [], _, found => found
  | fuel + 1, cell :: work, seen, found =>
    if seen.contains cell then leavesFrom cells fuel work seen found
    else match cells[cell]? with
      | some (.split l r) => leavesFrom cells fuel (l :: r :: work) (cell :: seen) found
      | _ => leavesFrom cells fuel work (cell :: seen) (Ascending.insert cell found)

/-- What reading a letter does: the cells it leads to, the level of the reading, and whether it was
read as a blank only. -/
structure Move where
  targets : List Nat
  level : Int
  blank : Bool
deriving BEq, Hashable

namespace TokenAutomaton

/-- The automaton of a list of tokens, each after any number of blanks. -/
def ofTokens (tokens : Array Token) (blanks : Pattern) : TokenAutomaton := Id.run do
  let mut cells : Array Cell := #[]
  let mut starts : Array Nat := #[]
  let mut owners : Array Nat := #[]
  for token in tokens do
    let accept := cells.size
    cells := cells.push (.accept starts.size token.level)
    let (start, laid) := token.pattern.compile token.level false accept cells
    let (start, laid) :=
      if token.immediate then (start, laid)
      else (Pattern.optional (.many blanks)).compile 0 true start laid
    cells := laid
    owners := owners ++ Array.replicate (cells.size - owners.size) starts.size
    starts := starts.push start
  let fuel := 2 * cells.size + 2
  let leaves := (Array.range cells.size).map fun cell => leavesFrom cells fuel [cell] [] []
  return ⟨tokens, cells, starts, owners, leaves⟩

variable (m : TokenAutomaton)

/-- The cell with a number. -/
def cell? (number : Nat) : Option Cell := m.cells[number]?

/-- The leaves of a list of cells. -/
def leavesOf (cells : List Nat) : List Nat :=
  cells.foldl (fun acc cell => Ascending.union (m.leaves[cell]?.getD []) acc) []

/-- The tokens read completely, with their levels. -/
def completions (leaves : List Nat) : List (Nat × Int) :=
  leaves.filterMap fun cell => match m.cell? cell with
    | some (.accept token level) => some (token, level)
    | _ => none

/-- Whether a blank may be read next. -/
def mayReadBlank (leaves : List Nat) : Bool :=
  leaves.any fun cell => match m.cell? cell with
    | some (.advance _ _ _ blank) => blank
    | _ => false

/-- The effect of a letter on the leaves, if any of them reads it. -/
def moveOn (leaves : List Nat) (letter : Nat) : Option Move :=
  leaves.foldl (fun found cell => match m.cell? cell with
    | some (.advance letters target level blank) =>
      if letters.contains letter then
        match found with
        | none => some ⟨[target], level, blank⟩
        | some move =>
          some ⟨Ascending.insert target move.targets, max move.level level, move.blank && blank⟩
      else found
    | _ => found) none

/-- The tokens that some cells belong to, in increasing order. -/
def ownersOf (cells : List Nat) : List Nat :=
  Ascending.ofList (cells.filterMap fun cell => m.owners[cell]?)

/-- Of two tokens read completely, whether the first is preferred: by level, then by the weight of
its kind, then by its place in the grammar. -/
def prefers (left right : Nat × Int) : Bool :=
  let weight (token : Nat) : Nat := (m.tokens[token]?.map Token.weight).getD 0
  if left.2 != right.2 then left.2 > right.2
  else if weight left.1 != weight right.1 then weight left.1 > weight right.1
  else left.1 < right.1

/-- Whether reading on is preferred to stopping at a token: never at a lower level, and at the same
level neither over a blank nor when blanks may follow and the token could be read on itself. -/
def readsOn (move : Move) (done : Nat × Int) (blanksFollow : Bool) : Bool :=
  if move.level < done.2 then false
  else if move.level == done.2 then
    !move.blank && !(blanksFollow && (m.ownersOf move.targets).contains done.1)
  else true

/-- The preferred one of the tokens read completely. -/
def completion (leaves : List Nat) : Option (Nat × Int) :=
  (m.completions leaves).foldl (fun best done => match best with
    | none => some done
    | some b => if m.prefers b done then some b else some done) none

end TokenAutomaton

/-- How a token competes with another one. -/
structure Overlap where
  /-- It stops where the other could be read on. -/
  stopsShort : Bool
  /-- It is read on where the other could stop. -/
  readsOn : Bool
  /-- It is read on over a letter that may follow the other token. -/
  readsOnIntoFollower : Bool
  /-- It is complete where blanks may still be read. -/
  endsInBlank : Bool
  /-- It wins over the other on some text that both match. -/
  winsSameText : Bool
  /-- It goes on where the other cannot. -/
  goesOnAlone : Bool
deriving BEq, Inhabited

namespace Overlap

/-- The competition of tokens that never meet. -/
def apart : Overlap := ⟨false, false, false, false, false, false⟩

/-- Whether the token could be taken for the other one, or hide it. -/
def conflicts (o : Overlap) : Bool := o.readsOnIntoFollower || o.endsInBlank || o.winsSameText

end Overlap

/-- The competition of two tokens `i` and `j`: of `i` against `j`, and of `j` against `i`. -/
structure Rivalry where
  i : Nat
  j : Nat
  ofI : Overlap
  ofJ : Overlap

namespace Rivalry

/-- Notes something about one of the two tokens. -/
def note (r : Rivalry) (token : Nat) (change : Overlap → Overlap) : Rivalry :=
  if token == r.i then { r with ofI := change r.ofI } else { r with ofJ := change r.ofJ }

/-- The rival of one of the two tokens. -/
def rival (r : Rivalry) (token : Nat) : Nat := if token == r.i then r.j else r.i

end Rivalry

namespace TokenAutomaton

variable (m : TokenAutomaton)

/-- What the tokens complete at one place say about the rivalry, with the preferred of them. -/
def noteCompletions (blanks : Bool) :
    List (Nat × Int) → Rivalry → Option (Nat × Int) → Rivalry × Option (Nat × Int)
  | [], r, best => (r, best)
  | done :: rest, r, best =>
    if blanks then (r.note done.1 fun o => { o with endsInBlank := true }, best)
    else match best with
      | none => noteCompletions blanks rest r (some done)
      | some b =>
        if done.1 == b.1 then noteCompletions blanks rest r best
        else
          let winner := if m.prefers b done then b else done
          noteCompletions blanks rest (r.note winner.1 fun o => { o with winsSameText := true })
            (some winner)

/-- What a letter says about the rivalry where a token is complete: either the other token reads on
over it, or it is cut short. -/
def noteMove (followers : Array LetterSet) (blanks : Bool) (done : Nat × Int) (letter : Nat)
    (move : Move) (r : Rivalry) : Rivalry :=
  if (m.ownersOf move.targets).contains done.1 then r
  else if m.readsOn move done blanks then
    let follows := (followers[done.1]?.getD .empty).contains letter
    r.note (r.rival done.1) fun o =>
      { o with readsOn := true, readsOnIntoFollower := o.readsOnIntoFollower || follows }
  else r.note done.1 fun o => { o with stopsShort := true }

/-- The rivalry of two tokens seen from the cell sets of a work list.  A set that only one of them
is left in says no more than that.  `followers` gives the letters that the tokens after each token
start with. -/
def rivalryFrom (followers : Array LetterSet) :
    Nat → List (List Nat) → List (List Nat) → Rivalry → Rivalry
  | 0, _, _, r => r
  | _ + 1, [], _, r => r
  | fuel + 1, cells :: work, seen, r =>
    match m.ownersOf cells with
    | [] => rivalryFrom followers fuel work seen r
    | [token] =>
      rivalryFrom followers fuel work seen (r.note token fun o => { o with goesOnAlone := true })
    | _ =>
      let leaves := m.leavesOf cells
      let blanks := m.mayReadBlank leaves
      let (r, best) := m.noteCompletions blanks (m.completions leaves) r none
      let step := fun (state : List (List Nat) × List (List Nat) × Rivalry) (letter : Nat) =>
        match m.moveOn leaves letter with
        | none => state
        | some move =>
          let (work, seen, r) := state
          let r := match best with
            | none => r
            | some done => m.noteMove followers blanks done letter move r
          if seen.contains move.targets then (work, seen, r)
          else (move.targets :: work, move.targets :: seen, r)
      let (work, seen, r) := (List.range letterCount).foldl step (work, seen, r)
      rivalryFrom followers fuel work seen r

/-- The competition of two tokens, of the first against the second and the other way round. -/
def overlap (followers : Array LetterSet) (i j : Nat) : Overlap × Overlap :=
  let start (token : Nat) : Nat := m.starts[token]?.getD 0
  let r := m.rivalryFrom followers (m.cells.size * m.cells.size + 1) [[start i, start j]] []
    ⟨i, j, .apart, .apart⟩
  (r.ofI, r.ofJ)

/-- The letters that a token can start with, blanks before it included. -/
def firstLetters (token : Nat) : LetterSet :=
  (m.leavesOf [m.starts[token]?.getD 0]).foldl (fun set cell => match m.cell? cell with
    | some (.advance letters _ _ _) => set.union letters
    | _ => set) .empty

end TokenAutomaton

end EnergyAudit.Grammar
