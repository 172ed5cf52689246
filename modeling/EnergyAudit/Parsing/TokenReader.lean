import EnergyAudit.Parsing.Fragment
import EnergyAudit.Text.Cursor

/-!
# Reading tokens

At a place in the text, in a state of the parser, the next token is what the layout scanner finds
there, or else what the lexing automaton of the state reads.  If both fail they are tried again as
in error recovery, and then from one place to the next until some token is found; what lies before
it is a token of its own that is no part of the language.

## Main definitions

* `LayoutScanner` — a scanner for tokens that depend on more than their letters.
* `Stretch` — the text of a token.
* `readToken` — what a lexing automaton reads.
* `Reader.token` — the next token.
-/

namespace EnergyAudit.Parsing

open EnergyAudit.Grammar EnergyAudit.Text

/-- The text of a token: from its first byte up to the first behind it. -/
structure Stretch where
  start : Nat
  stop : Nat
deriving BEq, Inhabited

/-- A token that a layout scanner has found: its number, its text and the state behind it. -/
structure LayoutFinding (σ : Type) where
  token : Nat
  stretch : Stretch
  state : σ

/-- A scanner for tokens that depend on more than their letters.  It is told which of its tokens
are looked for. -/
structure LayoutScanner (σ : Type) where
  initial : σ
  scan : Array Bool → σ → Cursor → Option (LayoutFinding σ)

/-! ### Lexing automata -/

/-- What an automaton has read so far. -/
structure LexReading where
  /-- The symbol of the longest token. -/
  symbol : Option Nat
  /-- Where the text of the token starts, behind blanks. -/
  start : Nat
  /-- Where the longest token stops. -/
  stop : Nat
  /-- Where the reading has come to a halt. -/
  halt : Nat

/-- The text of the longest token. -/
def LexReading.stretch (r : LexReading) : Stretch := ⟨min r.start r.stop, r.stop⟩

/-- Reads on from a state; each letter takes one unit of fuel. -/
def readFrom (table : LexTable) : Nat → Nat → Cursor → LexReading → LexReading
  | 0, _, _, r => r
  | fuel + 1, number, cursor, r =>
    match table.states[number]? with
    | none => r
    | some state =>
      let r := match state.done with
        | some symbol => { r with symbol := some symbol, stop := cursor.position }
        | none => r
      if cursor.atEnd then
        if state.mayEnd then { r with symbol := some endSymbol, stop := cursor.position } else r
      else
        match (state.moves[letterOf (Char.ofNat cursor.code)]?).join with
        | none => r
        | some move =>
          let cursor := cursor.next
          let r := { r with
            halt := cursor.position
            start := if move.blank then cursor.position else r.start }
          readFrom table fuel move.target cursor r

/-- The place behind a byte order mark at the very start of the text, or the same place. -/
def skipMark (c : Cursor) : Cursor :=
  if c.position == 0 && c.code == 0xfeff then c.next else c

/-- What an automaton reads at a place. -/
def readToken (table : LexTable) (start : Nat) (c : Cursor) : LexReading :=
  let c := skipMark c
  let r := readFrom table (c.source.size + 1 - c.position) start c
    ⟨none, c.position, c.position, c.position⟩
  if r.symbol.isSome then r else { r with stop := r.halt }

/-! ### Tokens -/

/-- What the reading of tokens needs to know. -/
structure Reader (σ : Type) where
  table : ParseTable
  scanner : LayoutScanner σ
  source : ByteArray

/-- Where a token is looked for. -/
structure Site (σ : Type) where
  /-- The state of the parser. -/
  state : Nat
  /-- The place behind the last token. -/
  position : Nat
  /-- The state of the layout scanner there, if it has found any token so far. -/
  layout : Option σ
  /-- Whether the parser has got on since the last error. -/
  advanced : Bool

/-- What comes next at a site. -/
inductive Finding (σ : Type) where
  | layout (symbol : Nat) (stretch : Stretch) (state : σ) (changed : Bool)
  | lexed (symbol : Nat) (stretch : Stretch)
  /-- Text that is no part of the language. -/
  | skipped (stretch : Stretch)

namespace Reader

variable {σ : Type} [BEq σ] (r : Reader σ)

/-- The extent of the text between two places. -/
def extent (start stop : Nat) : Extent := ⟨stop - start, lineEndsBetween r.source start stop⟩

/-- The token that the layout scanner finds at a place, looking for those of the state `mode`.  An
empty one that changes nothing counts only if it gets the parser on. -/
def findLayout (site : Site σ) (mode : Nat) (recovering : Bool) (place : Nat) :
    Option (Finding σ) := do
  let valid ← r.table.layoutSets[mode]?
  if valid.all (!·) then none
  let state := site.layout.getD r.scanner.initial
  let found ← r.scanner.scan valid state (skipMark ⟨r.source, place⟩)
  let symbol ← r.table.layoutSymbols[found.token]?
  let changed := site.layout != some found.state
  let next := r.table.nextState site.state symbol
  let isIdle := found.stretch.stop ≤ place && !changed &&
    (recovering || !site.advanced || next == site.state)
  if isIdle then none
  return .layout symbol found.stretch found.state changed

/-- The token of the lexing automaton of the state `mode` at a place. -/
def readWith (mode place : Nat) : LexReading :=
  readToken r.table.lexing (r.table.lexing.starts[mode]?.getD 0) ⟨r.source, place⟩

/-- Looks for a token from a place on, as in error recovery; `skipped` is the text passed over. -/
def findBeyond (site : Site σ) : Nat → Option Stretch → Nat → Finding σ
  | 0, skipped, place => .skipped (skipped.getD ⟨place, place⟩)
  | fuel + 1, skipped, place =>
    match r.findLayout site errorState true place with
    | some found => match skipped with
      | none => found
      | some stretch => .skipped stretch
    | none =>
      let reading := r.readWith errorState place
      match reading.symbol, skipped with
      | some symbol, none => .lexed symbol reading.stretch
      | some _, some stretch => .skipped stretch
      | none, _ =>
        let stretch := skipped.getD ⟨reading.stretch.start, reading.stretch.start⟩
        let halt : Cursor := ⟨r.source, reading.halt⟩
        if halt.position == stretch.stop then
          if halt.atEnd then .skipped stretch
          else
            let next := halt.next.position
            findBeyond site fuel (some { stretch with stop := next }) next
        else findBeyond site fuel (some { stretch with stop := halt.position }) halt.position

/-- What comes next at a site. -/
def find (site : Site σ) : Finding σ :=
  match r.findLayout site site.state (site.state == errorState) site.position with
  | some found => found
  | none =>
    let reading := r.readWith site.state site.position
    match reading.symbol with
    | some symbol => .lexed symbol reading.stretch
    | none => r.findBeyond site (2 * r.source.size + 4) none site.position

/-- A token with its text, as it stands behind `position`. -/
def leafAt (position symbol : Nat) (stretch : Stretch) : Fragment σ :=
  .leaf r.table symbol (r.extent position stretch.start) (r.extent stretch.start stretch.stop)

/-- The next token at a site.  A word is a keyword if the whole word is one and the state has
actions for it. -/
def token (site : Site σ) : Fragment σ :=
  match r.find site with
  | .skipped stretch => r.leafAt site.position errorSymbol stretch
  | .layout symbol stretch state changed =>
    { r.leafAt site.position symbol stretch with layout := some state, changesLayout := changed }
  | .lexed symbol stretch =>
    if symbol != wordSymbol then r.leafAt site.position symbol stretch
    else
      let keyword := readToken r.table.lexing r.table.lexing.keywordStart ⟨r.source, stretch.start⟩
      match keyword.symbol with
      | none => r.leafAt site.position symbol stretch
      | some word =>
        let fits := keyword.stop == stretch.stop && !(r.table.actions site.state word).isEmpty
        { r.leafAt site.position (if fits then word else symbol) stretch with isKeyword := true }

end Reader

end EnergyAudit.Parsing
