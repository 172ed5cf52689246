import EnergyAudit.Parsing.TokenReader

/-!
# Python layout

Finds the tokens of Python that depend on what came before: ends of lines, changes of indentation,
and the parts of strings, whose end depends on how they began.

## Main definitions

* `Layout` — the strings that are open and the indentation of the blocks around a place.
* `layoutScanner` — finds the next such token.
-/

namespace EnergyAudit.Python

open EnergyAudit.Parsing EnergyAudit.Text

/-- How a string began. -/
structure OpenString where
  /-- The quote that ends it. -/
  quote : Nat
  /-- Whether the quote is written three times. -/
  isTriple : Bool
  isRaw : Bool
  isFormat : Bool
  isBytes : Bool
deriving BEq

/-- What layout depends on at a place. -/
structure Layout where
  /-- The strings that are open, the innermost first. -/
  strings : List OpenString
  /-- The columns of the blocks around the place, the innermost first, and the module left out. -/
  indents : List Nat
  /-- Whether the last string that began or ended was a format string that began. -/
  inFormat : Bool
deriving BEq

namespace Layout

/-- The layout at the start of a text. -/
def initial : Layout := ⟨[], [], false⟩

/-- The column of the innermost block. -/
def column (l : Layout) : Nat := l.indents.head?.getD 0

/-- The number of open strings that are kept track of. -/
def stringLimit : Nat := 255

/-- The number of bytes that hold a layout: two for each block beside two and one for each
string. -/
def storage : Nat := 1024

/-- The layout as far as it is kept track of: the outermost strings and blocks. -/
def kept (l : Layout) : Layout :=
  let strings := l.strings.drop (l.strings.length - stringLimit)
  let room := (storage - 2 - strings.length + 1) / 2
  { l with strings, indents := l.indents.drop (l.indents.length - room) }

/-- The layout within one more block. -/
def indented (l : Layout) (column : Nat) : Layout :=
  { l with indents := column % 65536 :: l.indents }

/-- The layout behind the innermost block. -/
def dedented (l : Layout) : Layout := { l with indents := l.indents.tail }

/-- The layout within one more string. -/
def opened (l : Layout) (string : OpenString) : Layout :=
  { l with strings := string :: l.strings, inFormat := string.isFormat }

/-- The layout behind the innermost string. -/
def closed (l : Layout) : Layout := { l with strings := l.strings.tail, inFormat := false }

end Layout

/-! ### The tokens -/

/-- The tokens that depend on layout. -/
inductive LayoutKind where
  | newline
  | indent
  | dedent
  | stringStart
  | stringContent
  | escapedBrace
  | stringEnd
  | comment
  | closingSquare
  | closingRound
  | closingCurly
  | except
deriving BEq

/-- The number of a kind in the list of layout tokens. -/
def LayoutKind.number : LayoutKind → Nat
  | newline => 0
  | indent => 1
  | dedent => 2
  | stringStart => 3
  | stringContent => 4
  | escapedBrace => 5
  | stringEnd => 6
  | comment => 7
  | closingSquare => 8
  | closingRound => 9
  | closingCurly => 10
  | except => 11

/-- What is looked for. -/
structure Wanted where
  valid : Array Bool

namespace Wanted

/-- Whether a kind of token is looked for. -/
def wants (w : Wanted) (kind : LayoutKind) : Bool := w.valid[kind.number]?.getD false

/-- Whether everything is looked for, as in error recovery. -/
def isRecovering (w : Wanted) : Bool := w.wants .stringContent && w.wants .indent

/-- Whether the place is within brackets. -/
def isBracketed (w : Wanted) : Bool :=
  w.wants .closingSquare || w.wants .closingRound || w.wants .closingCurly

end Wanted

/-- A token that has been found. -/
def found (kind : LayoutKind) (start stop : Nat) (layout : Layout) : LayoutFinding Layout :=
  ⟨kind.number, ⟨min start stop, stop⟩, layout.kept⟩

/-! ### The contents of strings -/

/-- How the search for the contents of a string ends. -/
inductive ContentSearch where
  | found (finding : LayoutFinding Layout)
  | nothing
  /-- The text ended first. -/
  | ended (cursor : Cursor)

/-- The token at a closing quote.  Three quotes end a string with triple quotes; fewer belong to its
contents. -/
def closeString (layout : Layout) (string : OpenString) (start : Nat) (hasContent : Bool)
    (c : Cursor) : LayoutFinding Layout :=
  let content (stop : Cursor) := found .stringContent start stop.position layout
  let ending (stop : Cursor) := found .stringEnd start stop.position layout.closed
  if string.isTriple then
    let second := c.next
    if second.code != string.quote then content second
    else
      let third := second.next
      if third.code != string.quote then content third
      else if hasContent then content c
      else ending third.next
  else if hasContent then content c
  else ending c.next

/-- The cursor behind a backslash in a raw string and what it protects. -/
def skipProtected (quote : Nat) (c : Cursor) : Cursor :=
  let c := c.next
  let c := if c.code == quote || c.code == '\\'.toNat then c.next else c
  if c.code == '\r'.toNat then
    let c := c.next
    if c.code == '\n'.toNat then c.next else c
  else if c.code == '\n'.toNat then c.next
  else c

/-- Looks for the end of a stretch of contents: an escape, a brace in a format string, or a
quote. -/
def searchContent (layout : Layout) (string : OpenString) (start : Nat) :
    Nat → Bool → Cursor → ContentSearch
  | 0, _, c => .ended c
  | fuel + 1, hasContent, c =>
    let content (stop : Cursor) : ContentSearch :=
      if hasContent then .found (found .stringContent start stop.position layout) else .nothing
    if c.code == 0 then .ended c
    else if string.isFormat && (c.code == '\x7b'.toNat || c.code == '\x7d'.toNat) then content c
    else if c.code == '\\'.toNat then
      if string.isRaw then
        searchContent layout string start fuel hasContent (skipProtected string.quote c)
      else if string.isBytes then
        let after := c.next
        if after.code == 'N'.toNat || after.code == 'u'.toNat || after.code == 'U'.toNat then
          searchContent layout string start fuel true after.next.next
        else content c
      else content c
    else if c.code == string.quote then .found (closeString layout string start hasContent c)
    else if c.code == '\n'.toNat && hasContent && !string.isTriple then .nothing
    else searchContent layout string start fuel true c.next

/-- The token at a brace in a format string: two braces stand for one. -/
def escapedBrace? (layout : Layout) (c : Cursor) : Option (LayoutFinding Layout) :=
  let second := c.next
  if second.code == c.code then
    some (found .escapedBrace c.position second.next.position layout)
  else none

/-! ### Blanks, lines and indentation -/

/-- The blanks before a token. -/
structure Margin where
  /-- The place behind them. -/
  cursor : Cursor
  /-- Where the token would start. -/
  start : Nat
  /-- Whether there is a line end among them, or the text ends. -/
  endsLine : Bool
  column : Nat
  /-- The column of the first comment among them. -/
  comment : Option Nat

/-- The cursor at the end of a comment. -/
def commentEnd : Nat → Cursor → Cursor
  | 0, c => c
  | fuel + 1, c =>
    if c.code == 0 || c.code == '\n'.toNat then c else commentEnd fuel c.next

/-- Reads the blanks before a token, with the lines that hold nothing but comments if those are of
interest.  There is none if a comment stands on the line of other text, or a backslash does not end
its line. -/
def readMargin (readsComments : Bool) : Nat → Margin → Option Margin
  | 0, m => some m
  | fuel + 1, m =>
    let skip (c : Cursor) (m : Margin) : Margin :=
      { m with cursor := c.next, start := c.next.position }
    let code := m.cursor.code
    if code == '\n'.toNat then
      readMargin readsComments fuel (skip m.cursor { m with endsLine := true, column := 0 })
    else if code == ' '.toNat then
      readMargin readsComments fuel (skip m.cursor { m with column := m.column + 1 })
    else if code == '\r'.toNat || code == 12 then
      readMargin readsComments fuel (skip m.cursor { m with column := 0 })
    else if code == '\t'.toNat then
      readMargin readsComments fuel (skip m.cursor { m with column := m.column + 8 })
    else if code == '#'.toNat && readsComments then
      if !m.endsLine then none
      else
        let m := { m with comment := m.comment.or (some m.column), column := 0 }
        readMargin readsComments fuel (skip (commentEnd fuel m.cursor) m)
    else if code == '\\'.toNat then
      let c := m.cursor.next
      let c := if c.code == '\r'.toNat then c.next else c
      if c.code == '\n'.toNat || c.atEnd then readMargin readsComments fuel (skip c m) else none
    else if m.cursor.atEnd then some { m with endsLine := true, column := 0 }
    else some m

/-- The token that the end of a line or a change of indentation amounts to.  `stop` is the place
before the blanks. -/
def lineToken? (w : Wanted) (layout : Layout) (m : Margin) (stop : Nat) :
    Option (LayoutFinding Layout) :=
  let code := m.cursor.code
  let atQuote := code == '"'.toNat || code == '\''.toNat || code == 96
  let mayDedent := w.wants .dedent ||
    (!w.wants .newline && !(w.wants .stringStart && atQuote) && !w.isBracketed)
  let commentIsDeeper := match m.comment with
    | none => false
    | some column => layout.column ≤ column
  if w.wants .indent && layout.column < m.column then
    some (found .indent m.start stop (layout.indented m.column))
  else if mayDedent && m.column < layout.column && !layout.inFormat && !commentIsDeeper then
    some (found .dedent m.start stop layout.dedented)
  else if w.wants .newline && !w.isRecovering then some (found .newline m.start stop layout)
  else none

/-! ### The beginning of strings -/

/-- Reads the letters before the quote of a string. -/
def readFlags : Nat → OpenString → Cursor → OpenString × Cursor
  | 0, string, c => (string, c)
  | fuel + 1, string, c =>
    if c.isAt 'f' || c.isAt 'F' then readFlags fuel { string with isFormat := true } c.next
    else if c.isAt 'r' || c.isAt 'R' then readFlags fuel { string with isRaw := true } c.next
    else if c.isAt 'b' || c.isAt 'B' then readFlags fuel { string with isBytes := true } c.next
    else if c.isAt 'u' || c.isAt 'U' then readFlags fuel string c.next
    else (string, c)

/-- The token that begins a string. -/
def stringStart? (layout : Layout) (m : Margin) : Option (LayoutFinding Layout) :=
  let fuel := m.cursor.source.size + 1 - m.cursor.position
  let (string, c) := readFlags fuel ⟨0, false, false, false, false⟩ m.cursor
  let start (stop : Cursor) (string : OpenString) :=
    some (found .stringStart m.start stop.position (layout.opened string))
  if c.code == 96 then start c.next { string with quote := 96 }
  else if c.code == '"'.toNat || c.code == '\''.toNat then
    let string := { string with quote := c.code }
    let second := c.next
    let third := second.next
    if second.code == c.code && third.code == c.code then
      start third.next { string with isTriple := true }
    else start second string
  else none

/-! ### The scanner -/

/-- Finds the next token that is not part of the contents of a string; `start` is where the text of
the token would start. -/
def scanMargin (w : Wanted) (layout : Layout) (start : Nat) (c : Cursor) :
    Option (LayoutFinding Layout) := do
  let readsComments :=
    w.wants .indent || w.wants .dedent || w.wants .newline || w.wants .except
  let m ← readMargin readsComments (c.source.size + 1 - c.position) ⟨c, start, false, 0, none⟩
  let line := if m.endsLine then lineToken? w layout m c.position else none
  match line with
  | some finding => return finding
  | none =>
    if m.comment.isNone && w.wants .stringStart then stringStart? layout m else none

/-- Finds the next token that depends on layout. -/
def scanLayout (valid : Array Bool) (layout : Layout) (c : Cursor) :
    Option (LayoutFinding Layout) :=
  let w : Wanted := ⟨valid⟩
  let atBrace := c.code == '\x7b'.toNat || c.code == '\x7d'.toNat
  match (if w.isRecovering then none else layout.strings.head?) with
  | none => scanMargin w layout c.position c
  | some string =>
    if w.wants .escapedBrace && string.isFormat && atBrace then escapedBrace? layout c
    else if w.wants .stringContent then
      match searchContent layout string c.position (c.source.size + 1 - c.position) false c with
      | .found finding => some finding
      | .nothing => none
      | .ended behind => scanMargin w layout c.position behind
    else scanMargin w layout c.position c

/-- The scanner of Python's layout. -/
def layoutScanner : LayoutScanner Layout := ⟨.initial, scanLayout⟩

end EnergyAudit.Python
