import EnergyAudit.Text.Basic
import EnergyAudit.Yaml.Place

/-!
# Scalars

A scalar is a piece of text.  It is written plainly, between quotes, or as a block of lines that
stand deeper than what is around them.

## Main definitions

* `ScalarStyle`, `Scalar` — a piece of text and how it is written.
* `plainScalar`, `quotedScalar`, `blockScalar` — readers for the three ways.
-/

namespace EnergyAudit.Yaml

open EnergyAudit.Text

/-- How a scalar is written. -/
inductive ScalarStyle where
  | plain
  | singleQuoted
  | doubleQuoted
  | literal
  | folded
deriving BEq, DecidableEq, Repr

/-- A piece of text and how it is written. -/
structure Scalar where
  text : String
  style : ScalarStyle
deriving BEq, DecidableEq, Repr

/-- The blanks and line ends between two parts of a scalar. -/
structure Gap where
  /-- Blanks before any line end. -/
  blanks : List Char
  /-- The first line end, if there is one. -/
  firstBreak : Option (List Char)
  /-- All further line ends. -/
  moreBreaks : List Char

namespace Gap

/-- No blanks and no line ends. -/
def none : Gap := ⟨[], .none, []⟩

/-- A gap at a line end that is left out. -/
def afterEscapedBreak : Gap := ⟨[], some [], []⟩

/-- The text that a gap stands for: one line end becomes a space, of several the first is left
out. -/
def folded (g : Gap) : List Char :=
  match g.firstBreak with
  | .none => g.blanks
  | some ['\n'] => if g.moreBreaks.isEmpty then [' '] else g.moreBreaks
  | some first => first ++ g.moreBreaks

end Gap

/-! ### Plain scalars -/

/-- Reads a gap.  In a plain scalar a tab may not stand before some column of a line. -/
def readGap (indent : Option Int) : Nat → Gap → Reading → Except Unit (Gap × Reading)
  | 0, gap, r => .ok (gap, r)
  | fuel + 1, gap, r =>
    match r.next? with
    | some c =>
      if isSpaceOrTab c then
        let isForbidden := match indent with
          | some indent => gap.firstBreak.isSome && r.place.column < indent && c == '\t'
          | .none => false
        if isForbidden then .error ()
        else if gap.firstBreak.isSome then readGap indent fuel gap (r.skip 1)
        else readGap indent fuel { gap with blanks := gap.blanks ++ [c] } (r.skip 1)
      else if isBreak c then
        let (line, r) := r.takeBreak
        match gap.firstBreak with
        | .none => readGap indent fuel ⟨[], some line, gap.moreBreaks⟩ r
        | some _ => readGap indent fuel { gap with moreBreaks := gap.moreBreaks ++ line } r
      else .ok (gap, r)
    | .none => .ok (gap, r)

/-- Whether a character ends a plain scalar within brackets. -/
def isFlowMark (c : Char) : Bool := [',', '[', ']', '\x7b', '\x7d'].contains c

/-- Reads the characters of a plain scalar up to a blank, a line end or a mark, adding them to what
is given backwards. -/
def readPlainWord (inFlow : Bool) : Nat → List Char → Reading →
    Except SyntaxProblem (List Char × Reading)
  | 0, word, r => .ok (word, r)
  | fuel + 1, word, r =>
    match r.next? with
    | .none => .ok (word, r)
    | some c =>
      if isSpaceOrTab c || isBreak c then .ok (word, r)
      else if inFlow && c == ':' && r.isAt 1 (fun d => isFlowMark d || d == '?') then
        .error (.here r.place "found unexpected ':'")
      else if (c == ':' && r.isGapAt 1) || (inFlow && isFlowMark c) then .ok (word, r)
      else readPlainWord inFlow fuel (c :: word) (r.skip 1)

/-- Reads the rest of a plain scalar.  What has been read is given backwards, with the gap behind
it.  Gives the text, whether the scalar was ended after a line end, and what is left. -/
def readPlain (start : Place) (inFlow : Bool) (indent : Int) : Nat → List Char → Gap → Reading →
    Except SyntaxProblem (List Char × Bool × Reading)
  | 0, text, gap, r => .ok (text, gap.firstBreak.isSome, r)
  | fuel + 1, text, gap, r =>
    if r.hasDocumentMark || r.has '#' then .ok (text, gap.firstBreak.isSome, r)
    else
      match readPlainWord inFlow (r.rest.length + 1) [] r with
      | .error e => .error (.within "while scanning a plain scalar" start e.place e.problem)
      | .ok (word, behind) =>
        let (text, gap) :=
          if word.isEmpty then (text, gap) else (word ++ gap.folded.reverse ++ text, Gap.none)
        if !behind.isAt 0 (fun c => isSpaceOrTab c || isBreak c) then
          .ok (text, gap.firstBreak.isSome, behind)
        else
          match readGap (some indent) (behind.rest.length + 1) gap behind with
          | .error _ =>
            .error (.within "while scanning a plain scalar" start behind.place
              "found a tab character that violates indentation")
          | .ok (gap, r) =>
            if !inFlow && r.place.column < indent then
              .ok (text, gap.firstBreak.isSome, r)
            else readPlain start inFlow indent fuel text gap r

/-- Reads a plain scalar, in or outside of brackets, whose further lines start at some column.  Also
tells whether it was ended after a line end. -/
def plainScalar (inFlow : Bool) (indent : Int) (r : Reading) :
    Except SyntaxProblem (Scalar × Bool × Reading) :=
  (readPlain r.place inFlow indent (r.rest.length + 1) [] Gap.none r).map
    fun (text, endsLine, r) => (⟨.ofList text.reverse, .plain⟩, endsLine, r)

/-! ### Quoted scalars -/

/-- The character of an escape that is one character long. -/
def escapedChar? : Char → Option Char
  | '0' => some '\x00'
  | 'a' => some '\x07'
  | 'b' => some '\x08'
  | 't' => some '\t'
  | '\t' => some '\t'
  | 'n' => some '\n'
  | 'v' => some '\x0b'
  | 'f' => some '\x0c'
  | 'r' => some '\r'
  | 'e' => some '\x1b'
  | ' ' => some ' '
  | '"' => some '"'
  | '/' => some '/'
  | '\\' => some '\\'
  | 'N' => some '\u0085'
  | '_' => some '\u00a0'
  | 'L' => some '\u2028'
  | 'P' => some '\u2029'
  | _ => .none

/-- The number of digits of an escape by code. -/
def codeLength? : Char → Option Nat
  | 'x' => some 2
  | 'u' => some 4
  | 'U' => some 8
  | _ => .none

/-- Reads an escape, backslash included. -/
def readEscape (start : Place) (r : Reading) : Except SyntaxProblem (Char × Reading) :=
  let failed (problem : String) (r : Reading) : Except SyntaxProblem (Char × Reading) :=
    .error (.within "while parsing a quoted scalar" start r.place problem)
  match r.rest[1]? with
  | .none => failed "found unknown escape character" r
  | some c =>
    match escapedChar? c, codeLength? c with
    | some escaped, _ => .ok (escaped, r.skip 2)
    | .none, .none => failed "found unknown escape character" r
    | .none, some length =>
      let r := r.skip 2
      let digits := r.rest.take length
      match digits.mapM hexValue? with
      | .none => failed "did not find expected hexdecimal number" r
      | some values =>
        let code := values.foldl (fun n d => n * 16 + d) 0
        if digits.length < length then failed "did not find expected hexdecimal number" r
        else if (0xd800 ≤ code && code ≤ 0xdfff) || 0x10ffff < code then
          failed "found invalid Unicode character escape code" r
        else .ok (Char.ofNat code, r.skip length)

/-- Reads the characters of a quoted scalar up to a blank, a line end or the closing quote, adding
them to what is given backwards.  Also tells whether a line end was left out by an escape. -/
def readQuotedWord (start : Place) (quote : Char) : Nat → List Char → Reading →
    Except SyntaxProblem (List Char × Bool × Reading)
  | 0, word, r => .ok (word, false, r)
  | fuel + 1, word, r =>
    match r.next? with
    | .none => .ok (word, false, r)
    | some c =>
      if isSpaceOrTab c || isBreak c then .ok (word, false, r)
      else if c == quote then
        if quote == '\'' && r.hasAt 1 '\'' then
          readQuotedWord start quote fuel ('\'' :: word) (r.skip 2)
        else .ok (word, false, r)
      else if quote == '"' && c == '\\' then
        if r.isAt 1 isBreak then .ok (word, true, (r.skip 1).skipBreak)
        else match readEscape start r with
          | .error e => .error e
          | .ok (escaped, r) => readQuotedWord start quote fuel (escaped :: word) r
      else readQuotedWord start quote fuel (c :: word) (r.skip 1)

/-- Reads the rest of a quoted scalar.  What has been read is given backwards. -/
def readQuoted (start : Place) (quote : Char) : Nat → List Char → Reading →
    Except SyntaxProblem (List Char × Reading)
  | 0, text, r => .ok (text, r)
  | fuel + 1, text, r =>
    let failed (problem : String) : Except SyntaxProblem (List Char × Reading) :=
      .error (.within "while scanning a quoted scalar" start r.place problem)
    if r.hasDocumentMark then failed "found unexpected document indicator"
    else if r.isAtEnd then failed "found unexpected end of stream"
    else
      match readQuotedWord start quote (r.rest.length + 1) text r with
      | .error e => .error e
      | .ok (text, isJoined, r) =>
        if r.has quote then .ok (text, r.skip 1)
        else
          let gap := if isJoined then Gap.afterEscapedBreak else Gap.none
          match readGap .none (r.rest.length + 1) gap r with
          | .error _ => .ok (text, r)
          | .ok (gap, r) => readQuoted start quote fuel (gap.folded.reverse ++ text) r

/-- Reads a scalar between quotes. -/
def quotedScalar (quote : Char) (r : Reading) : Except SyntaxProblem (Scalar × Reading) :=
  let style := if quote == '"' then ScalarStyle.doubleQuoted else .singleQuoted
  (readQuoted r.place quote (r.rest.length + 1) [] (r.skip 1)).map
    fun (text, r) => (⟨.ofList text.reverse, style⟩, r)

/-! ### Blocks -/

/-- What is kept of the line ends behind a block. -/
inductive Chomping where
  | strip
  | clip
  | keep
deriving BEq, DecidableEq

/-- The head of a block: what is kept of line ends, and how much deeper its lines stand, if that is
said. -/
structure BlockHead where
  chomping : Chomping
  increment : Option Nat

/-- Reads how the line ends behind a block are kept, if that is said. -/
def readChomping? (r : Reading) : Option (Chomping × Reading) :=
  if r.has '+' then some (.keep, r.skip 1)
  else if r.has '-' then some (.strip, r.skip 1)
  else .none

/-- Reads how much deeper the lines of a block stand, if that is said. -/
def readIncrement (start : Place) (r : Reading) : Except SyntaxProblem (Option Nat × Reading) :=
  match r.next? with
  | some c =>
    if c == '0' then
      .error (.within "while scanning a block scalar" start r.place
        "found an indentation indicator equal to 0")
    else if c.isDigit then .ok (some (c.toNat - '0'.toNat), r.skip 1)
    else .ok (.none, r)
  | .none => .ok (.none, r)

/-- Reads the head of a block with the rest of its line. -/
def readBlockHead (start : Place) (r : Reading) : Except SyntaxProblem (BlockHead × Reading) := do
  let (head, r) ← match readChomping? r with
    | some (chomping, r) =>
      let (increment, r) ← readIncrement start r
      pure (BlockHead.mk chomping increment, r)
    | .none =>
      let (increment, r) ← readIncrement start r
      match increment, readChomping? r with
      | some _, some (chomping, r) => pure (BlockHead.mk chomping increment, r)
      | _, _ => pure (BlockHead.mk .clip increment, r)
  match r.skipLineRest? with
  | some r => return (head, r.skipBreak)
  | .none =>
    throw (.within "while scanning a block scalar" start (r.skipWhile isSpaceOrTab).place
      "did not find expected comment or line break")

/-- Reads empty lines before a line of a block, with the blanks that such a line starts with.  Gives
the line ends, the greatest column reached, and what is left. -/
def readEmptyLines (start : Place) (indent : Option Nat) : Nat → List Char → Nat → Reading →
    Except SyntaxProblem (List Char × Nat × Reading)
  | 0, breaks, greatest, r => .ok (breaks, greatest, r)
  | fuel + 1, breaks, greatest, r =>
    let spaces := (r.rest.takeWhile (· == ' ')).length
    let r := match indent with
      | .none => r.skip spaces
      | some indent => r.skip (min spaces (indent - r.place.column))
    let greatest := max greatest r.place.column
    let isShallow := match indent with
      | .none => true
      | some indent => r.place.column < indent
    if isShallow && r.has '\t' then
      .error (.within "while scanning a block scalar" start r.place
        "found a tab character where an indentation space is expected")
    else if r.isAt 0 isBreak then
      let (line, r) := r.takeBreak
      readEmptyLines start indent fuel (breaks ++ line) greatest r
    else .ok (breaks, greatest, r)

/-- What has been read of a block. -/
structure BlockText where
  /-- The text, backwards. -/
  text : List Char
  /-- The end of the last line. -/
  lastBreak : List Char
  /-- The line ends of empty lines after that. -/
  emptyLines : List Char
  /-- Whether the last line starts with a blank. -/
  startsBlank : Bool

/-- Reads the lines of a block. -/
def readBlockLines (start : Place) (isLiteral : Bool) (indent : Nat) : Nat → BlockText → Reading →
    Except SyntaxProblem (BlockText × Reading)
  | 0, b, r => .ok (b, r)
  | fuel + 1, b, r =>
    if r.place.column != indent || r.isAtEnd then .ok (b, r)
    else
      let startsBlank := r.isAt 0 isSpaceOrTab
      let isFolded := !isLiteral && b.lastBreak == ['\n'] && !b.startsBlank && !startsBlank
      let lineEnd :=
        if isFolded then (if b.emptyLines.isEmpty then [' '] else []) else b.lastBreak
      let line := r.rest.takeWhile (!isBreak ·)
      let text := line.reverse ++ b.emptyLines.reverse ++ lineEnd.reverse ++ b.text
      let (lastBreak, r) := (r.skip line.length).takeBreak
      match readEmptyLines start (some indent) (r.rest.length + 1) [] 0 r with
      | .error e => .error e
      | .ok (emptyLines, _, r) =>
        readBlockLines start isLiteral indent fuel ⟨text, lastBreak, emptyLines, startsBlank⟩ r

/-- Reads a scalar that is written as a block in something with some indentation. -/
def blockScalar (isLiteral : Bool) (outer : Int) (r : Reading) :
    Except SyntaxProblem (Scalar × Reading) := do
  let start := r.place
  let (head, r) ← readBlockHead start (r.skip 1)
  let known := head.increment.map fun n => (max outer 0).toNat + n
  let (emptyLines, greatest, r) ← readEmptyLines start known (r.rest.length + 1) [] 0 r
  let indent := known.getD (max (max greatest (outer + 1).toNat) 1)
  let (b, r) ← readBlockLines start isLiteral indent (r.rest.length + 1)
    ⟨[], [], emptyLines, false⟩ r
  let ending := match head.chomping with
    | .strip => []
    | .clip => b.lastBreak
    | .keep => b.lastBreak ++ b.emptyLines
  return (⟨.ofList (b.text.reverse ++ ending), if isLiteral then .literal else .folded⟩, r)

end EnergyAudit.Yaml
