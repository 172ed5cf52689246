import EnergyAudit.Yaml.Token

/-!
# The tokens of a text, one after another

Whether a node is a key is only known when the colon behind it is reached.  So tokens wait in a
queue as long as a key may still have to be marked before the first of them, and are read only when
they are asked for: an error comes after all that stands before it.

## Main definitions

* `KeyCandidate` — a node that may turn out to be a key.
* `TokenQueue` — the tokens that wait, with what is still to be read.
* `TokenQueue.peek` — the next token.
* `TokenQueue.drop` — the queue without it.
-/

namespace EnergyAudit.Yaml

/-- A node that may turn out to be a key. -/
structure KeyCandidate where
  /-- Whether it can be nothing else. -/
  isRequired : Bool
  /-- How many tokens are before it in the whole text. -/
  number : Nat
  place : Place

/-- The tokens that wait, with what is still to be read and what decides how it is read. -/
structure TokenQueue where
  reading : Reading
  waiting : List Token
  /-- How many tokens have been taken. -/
  taken : Nat
  /-- Whether a key may start here. -/
  allowsKey : Bool
  /-- The column of what is shown by indentation, or -1. -/
  indent : Int
  /-- The columns of what is around it, innermost first. -/
  outerIndents : List Int
  /-- The candidate of each bracket that is open, innermost first, and last the one outside. -/
  candidates : List (Option KeyCandidate)

namespace TokenQueue

/-- The queue at the start of a text. -/
def ofReading (r : Reading) : TokenQueue :=
  ⟨r, [], 0, true, -1, [], [none]⟩

/-- Whether a bracket is open. -/
def inFlow (q : TokenQueue) : Bool := q.candidates.length > 1

/-- The place of what is still to be read. -/
def place (q : TokenQueue) : Place := q.reading.place

/-- Puts a token at the end. -/
def push (q : TokenQueue) (t : Token) : TokenQueue := { q with waiting := q.waiting ++ [t] }

/-- Puts a token before the one with a number. -/
def pushBefore (q : TokenQueue) (number : Nat) (t : Token) : TokenQueue :=
  let n := number - q.taken
  { q with waiting := q.waiting.take n ++ t :: q.waiting.drop n }

/-! ### Candidates for keys -/

/-- Refuses a candidate that had to be a key. -/
def dropCandidate (c : KeyCandidate) (here : Place) : Except SyntaxProblem (Option KeyCandidate) :=
  if c.isRequired then
    .error (.within "while scanning a simple key" c.place here "could not find expected ':'")
  else .ok none

/-- Drops candidates that are too far away: on another line, or more than 1024 characters before. -/
def dropStale (q : TokenQueue) : Except SyntaxProblem TokenQueue := do
  let here := q.place
  -- The outermost candidate is looked at first.
  let kept ← q.candidates.reverse.mapM fun candidate =>
    match candidate with
    | some c =>
      if c.place.line < here.line || c.place.index + 1024 < here.index then dropCandidate c here
      else .ok (some c)
    | none => .ok none
  return { q with candidates := kept.reverse }

/-- Drops the candidate of the innermost bracket. -/
def clearCandidate (q : TokenQueue) : Except SyntaxProblem TokenQueue :=
  match q.candidates with
  | some c :: outer => (dropCandidate c q.place).map fun c => { q with candidates := c :: outer }
  | _ => .ok q

/-- Makes the node that starts here a candidate, if a key may start here. -/
def saveCandidate (q : TokenQueue) : Except SyntaxProblem TokenQueue :=
  if !q.allowsKey then .ok q
  else
    let c : KeyCandidate :=
      ⟨!q.inFlow && q.indent == q.place.column, q.taken + q.waiting.length, q.place⟩
    q.clearCandidate.map fun q => { q with candidates := some c :: q.candidates.drop 1 }

/-! ### Indentation -/

/-- Opens what is shown by indentation, if it stands deeper than what is around it.  Its mark is put
at the end or before the token with a number. -/
def openBlock (q : TokenQueue) (kind : TokenKind) (number : Option Nat) (place : Place) :
    TokenQueue :=
  if q.inFlow || (place.column : Int) ≤ q.indent then q
  else
    let q := { q with indent := place.column, outerIndents := q.indent :: q.outerIndents }
    let token : Token := ⟨kind, place, place⟩
    match number with
    | none => q.push token
    | some number => q.pushBefore number token

/-- The columns that are left when what stands deeper than a column ends, and how many ended. -/
def closing (column : Int) : Int → List Int → Nat × Int × List Int
  | indent, [] => (0, indent, [])
  | indent, next :: outer =>
    if column < indent then
      let (n, rest) := closing column next outer
      (n + 1, rest)
    else (0, indent, next :: outer)

/-- Ends what stands deeper than a column. -/
def closeBlocks (q : TokenQueue) (column : Int) : TokenQueue :=
  if q.inFlow then q
  else
    let (n, indent, outer) := closing column q.indent q.outerIndents
    { q with
      indent := indent
      outerIndents := outer
      waiting := q.waiting ++ List.replicate n ⟨.blockEnd, q.place, q.place⟩ }

/-! ### Reading a token -/

/-- Passes blanks, comments and line ends.  In a line that may start a key tabs are no blanks. -/
def skipGaps : Nat → TokenQueue → TokenQueue
  | 0, q => q
  | fuel + 1, q =>
    let isBlank (c : Char) : Bool := c == ' ' || (c == '\t' && (q.inFlow || !q.allowsKey))
    let r := q.reading.skipWhile isBlank
    let r := if r.has '#' then r.skipWhile (!isBreak ·) else r
    if r.isAt 0 isBreak then
      skipGaps fuel { q with reading := r.skipBreak, allowsKey := q.allowsKey || !q.inFlow }
    else { q with reading := r }

/-- Puts a mark of so many characters at the end. -/
def pushMark (q : TokenQueue) (kind : TokenKind) (length : Nat) : TokenQueue :=
  let behind := q.reading.skip length
  { q with reading := behind }.push ⟨kind, q.place, behind.place⟩

/-- A problem with the place that is reached. -/
def refuse (q : TokenQueue) (problem : String) : Except SyntaxProblem TokenQueue :=
  .error (.here q.place problem)

/-- The end of the text. -/
def readTextEnd (q : TokenQueue) : Except SyntaxProblem TokenQueue := do
  let p := q.place
  let p : Place := if p.column == 0 then p else ⟨p.index, p.line + 1, 0⟩
  let q ← ({ q with reading := ⟨p, []⟩ }.closeBlocks (-1)).clearCandidate
  return { q with allowsKey := false }.push ⟨.textEnd, p, p⟩

/-- A directive. -/
def readDirectiveToken (q : TokenQueue) : Except SyntaxProblem TokenQueue := do
  let q ← (q.closeBlocks (-1)).clearCandidate
  let (kind, stop, behind) ← readDirective q.reading
  return { q with reading := behind, allowsKey := false }.push ⟨kind, q.place, stop⟩

/-- A mark before or behind a document. -/
def readDocumentMark (q : TokenQueue) (kind : TokenKind) : Except SyntaxProblem TokenQueue := do
  let q ← (q.closeBlocks (-1)).clearCandidate
  return { q with allowsKey := false }.pushMark kind 3

/-- An opening bracket. -/
def readOpening (q : TokenQueue) (kind : TokenKind) : Except SyntaxProblem TokenQueue := do
  let q ← q.saveCandidate
  return { q with candidates := none :: q.candidates, allowsKey := true }.pushMark kind 1

/-- A closing bracket. -/
def readClosing (q : TokenQueue) (kind : TokenKind) : Except SyntaxProblem TokenQueue := do
  let q ← q.clearCandidate
  let candidates := if q.inFlow then q.candidates.drop 1 else q.candidates
  return { q with candidates := candidates, allowsKey := false }.pushMark kind 1

/-- A comma. -/
def readComma (q : TokenQueue) : Except SyntaxProblem TokenQueue := do
  let q ← q.clearCandidate
  return { q with allowsKey := true }.pushMark .flowEntry 1

/-- A dash before an item. -/
def readDash (q : TokenQueue) : Except SyntaxProblem TokenQueue := do
  let q ←
    if q.inFlow then pure q
    else if q.allowsKey then pure (q.openBlock .blockSequenceStart none q.place)
    else q.refuse "block sequence entries are not allowed in this context"
  let q ← q.clearCandidate
  return { q with allowsKey := true }.pushMark .blockEntry 1

/-- A question mark before a key. -/
def readKeyMark (q : TokenQueue) : Except SyntaxProblem TokenQueue := do
  let q ←
    if q.inFlow then pure q
    else if q.allowsKey then pure (q.openBlock .blockMappingStart none q.place)
    else q.refuse "mapping keys are not allowed in this context"
  let q ← q.clearCandidate
  return { q with allowsKey := !q.inFlow }.pushMark .key 1

/-- A colon before a value. -/
def readColon (q : TokenQueue) : Except SyntaxProblem TokenQueue := do
  let q ← match q.candidates with
    | some c :: outer =>
      let q := q.pushBefore c.number ⟨.key, c.place, c.place⟩
      let q := q.openBlock .blockMappingStart (some c.number) c.place
      pure { q with candidates := none :: outer, allowsKey := false }
    | _ =>
      if q.inFlow then pure { q with allowsKey := false }
      else if q.allowsKey then
        pure { q.openBlock .blockMappingStart none q.place with allowsKey := true }
      else q.refuse "mapping values are not allowed in this context"
  return q.pushMark .value 1

/-- A token that can start a key. -/
def readNodePart (q : TokenQueue)
    (read : Reading → Except SyntaxProblem (TokenKind × Bool × Reading)) :
    Except SyntaxProblem TokenQueue := do
  let q ← q.saveCandidate
  let (kind, endsLine, behind) ← read q.reading
  return { q with reading := behind, allowsKey := endsLine }.push ⟨kind, q.place, behind.place⟩

/-- A block of text. -/
def readBlockToken (q : TokenQueue) (isLiteral : Bool) : Except SyntaxProblem TokenQueue := do
  let q ← q.clearCandidate
  let (scalar, behind) ← blockScalar isLiteral q.indent q.reading
  return { q with reading := behind, allowsKey := true }.push
    ⟨.scalar scalar, q.place, behind.place⟩

/-- A name, given to a node or standing for one. -/
def readNameToken (q : TokenQueue) (isReference : Bool) : Except SyntaxProblem TokenQueue :=
  q.readNodePart fun r => (readAnchorName isReference r).map fun (name, behind) =>
    (if isReference then .reference name else .anchor name, false, behind)

/-- A tag. -/
def readTagToken (q : TokenQueue) : Except SyntaxProblem TokenQueue :=
  q.readNodePart fun r => (readTag q.inFlow r).map fun (kind, behind) => (kind, false, behind)

/-- A scalar between quotes. -/
def readQuotedToken (q : TokenQueue) (quote : Char) : Except SyntaxProblem TokenQueue :=
  q.readNodePart fun r => (quotedScalar quote r).map fun (scalar, behind) =>
    (.scalar scalar, false, behind)

/-- A plain scalar. -/
def readPlainToken (q : TokenQueue) : Except SyntaxProblem TokenQueue :=
  q.readNodePart fun r => (plainScalar q.inFlow (q.indent + 1) r).map
    fun (scalar, endsLine, behind) => (.scalar scalar, endsLine, behind)

/-- Whether a plain scalar can start with the character that comes next. -/
def canStartPlain (inFlow : Bool) (r : Reading) (c : Char) : Bool :=
  let isMark := ['-', '?', ':', ',', '[', ']', '\x7b', '\x7d', '#', '&', '*', '!', '|', '>', '\'',
    '"', '%', '@', '\x60'].contains c
  !(r.isGapAt 0 || isMark) ||
    (c == '-' && !r.isAt 1 isSpaceOrTab) ||
    (!inFlow && (c == '?' || c == ':') && !r.isGapAt 1)

/-- Reads the next token, with the ends of blocks before it. -/
def read (q : TokenQueue) : Except SyntaxProblem TokenQueue := do
  let q ← (skipGaps (q.reading.rest.length + 1) q).dropStale
  let q := q.closeBlocks q.place.column
  let r := q.reading
  match r.next? with
  | none => q.readTextEnd
  | some c =>
    let isFreeMark := q.inFlow || r.isGapAt 1
    if r.place.column == 0 && c == '%' then q.readDirectiveToken
    else if r.hasLineMark '-' then q.readDocumentMark .documentStart
    else if r.hasLineMark '.' then q.readDocumentMark .documentEnd
    else if c == '[' then q.readOpening .flowSequenceStart
    else if c == '\x7b' then q.readOpening .flowMappingStart
    else if c == ']' then q.readClosing .flowSequenceEnd
    else if c == '\x7d' then q.readClosing .flowMappingEnd
    else if c == ',' then q.readComma
    else if c == '-' && r.isGapAt 1 then q.readDash
    else if c == '?' && isFreeMark then q.readKeyMark
    else if c == ':' && isFreeMark then q.readColon
    else if c == '*' then q.readNameToken true
    else if c == '&' then q.readNameToken false
    else if c == '!' then q.readTagToken
    else if c == '|' && !q.inFlow then q.readBlockToken true
    else if c == '>' && !q.inFlow then q.readBlockToken false
    else if c == '\'' then q.readQuotedToken '\''
    else if c == '"' then q.readQuotedToken '"'
    else if canStartPlain q.inFlow r c then q.readPlainToken
    else
      throw (.within "while scanning for the next token" q.place q.place
        "found character that cannot start any token")

/-- Whether a key may have to be marked before the first token that waits. -/
def mayMarkKey (q : TokenQueue) : Bool :=
  q.candidates.any fun c => (c.map (·.number == q.taken)).getD false

/-- Reads tokens until it is certain which one comes next. -/
def fill : Nat → TokenQueue → Except SyntaxProblem TokenQueue
  | 0, q => .ok q
  | fuel + 1, q => do
    if q.waiting.isEmpty then fill fuel (← q.read)
    else
      let q ← q.dropStale
      if q.mayMarkKey then fill fuel (← q.read) else .ok q

/-- The next token, with the queue in which it is first. -/
def peek (q : TokenQueue) : Except SyntaxProblem (Token × TokenQueue) := do
  let q ← q.fill (q.reading.rest.length + 4)
  match q.waiting with
  | t :: _ => return (t, q)
  | [] => return (⟨.textEnd, q.place, q.place⟩, q)

/-- The queue without its first token. -/
def drop (q : TokenQueue) : TokenQueue :=
  { q with waiting := q.waiting.drop 1, taken := q.taken + 1 }

end TokenQueue

end EnergyAudit.Yaml
