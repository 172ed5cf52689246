/-!
# Places in a YAML text

A YAML text is read from its start.  What is still to be read is kept with its place, so that errors
can name it.

## Main definitions

* `Place` — how many characters, lines and columns are before a character.
* `SyntaxProblem` — what is wrong with a text, with `SyntaxProblem.message`.
* `Reading` — the characters that are still to be read.
-/

namespace EnergyAudit.Yaml

/-- What is before a character: characters, lines, and characters of its own line. -/
structure Place where
  index : Nat
  line : Nat
  column : Nat
deriving BEq, DecidableEq, Repr, Inhabited

namespace Place

/-- The start of a text. -/
def start : Place := ⟨0, 0, 0⟩

/-- Whether a place is at the very start, which is not worth naming. -/
def isStart (p : Place) : Bool := p.line == 0 && p.column == 0

/-- A place in words. -/
def words (p : Place) : String :=
  if p.isStart then "position " ++ toString p.index
  else "line " ++ toString (p.line + 1) ++ " column " ++ toString (p.column + 1)

end Place

/-- What is wrong with a text, and in what it is wrong. -/
structure SyntaxProblem where
  problem : String
  place : Place
  /-- The byte of a character that cannot stand in any text. -/
  byte : Nat
  context : Option (String × Place)
deriving BEq, DecidableEq, Repr

namespace SyntaxProblem

/-- A problem at a place. -/
def here (place : Place) (problem : String) : SyntaxProblem := ⟨problem, place, 0, none⟩

/-- A problem at a place in something that starts at another one. -/
def within (context : String) (start place : Place) (problem : String) : SyntaxProblem :=
  ⟨problem, place, 0, some (context, start)⟩

/-- The problem in words. -/
def message (p : SyntaxProblem) : String :=
  p.problem ++
  (if !p.place.isStart then " at " ++ p.place.words
    else if p.byte != 0 then " at position " ++ toString p.byte
    else "") ++
  match p.context with
  | none => ""
  | some (context, place) =>
    ", " ++ context ++
      if !place.isStart && (place.line != p.place.line || place.column != p.place.column) then
        " at " ++ place.words
      else ""

end SyntaxProblem

/-! ### Kinds of characters -/

/-- Whether a character ends a line. -/
def isBreak (c : Char) : Bool :=
  c == '\n' || c == '\r' || c == '\u0085' || c == '\u2028' || c == '\u2029'

/-- Whether a character is a space or a tab. -/
def isSpaceOrTab (c : Char) : Bool := c == ' ' || c == '\t'

/-- Whether a character can stand in a name. -/
def isNameChar (c : Char) : Bool := c.isAlphanum || c == '_' || c == '-'

/-- Whether a character can stand in a text. -/
def isAllowed (c : Char) : Bool :=
  let n := c.toNat
  c == '\t' || c == '\n' || c == '\r' || (0x20 ≤ n && n ≤ 0x7e) || n == 0x85 ||
    (0xa0 ≤ n && n ≤ 0xfffd && n != 0xfeff) || 0x10000 ≤ n

/-! ### What is still to be read -/

/-- The characters that are still to be read, with the place of the first of them. -/
structure Reading where
  place : Place
  rest : List Char

namespace Reading

/-- Whether nothing is left. -/
def isAtEnd (r : Reading) : Bool := r.rest.isEmpty

/-- The first character. -/
def next? (r : Reading) : Option Char := r.rest.head?

/-- Whether a character comes after so many others. -/
def hasAt (r : Reading) (n : Nat) (c : Char) : Bool := r.rest[n]? == some c

/-- Whether a character comes next. -/
def has (r : Reading) (c : Char) : Bool := r.hasAt 0 c

/-- Whether a character of a kind comes after so many others. -/
def isAt (r : Reading) (n : Nat) (p : Char → Bool) : Bool := (r.rest[n]?.map p).getD false

/-- Whether a space, a tab, a line end or the end of the text comes after so many others. -/
def isGapAt (r : Reading) (n : Nat) : Bool :=
  (r.rest[n]?.map fun c => isSpaceOrTab c || isBreak c).getD true

/-- Whether a line end or the end of the text comes next. -/
def isAtLineEnd (r : Reading) : Bool := (r.next?.map isBreak).getD true

/-- What is left behind so many characters, none of which ends a line. -/
def skip (r : Reading) (n : Nat) : Reading :=
  let passed := (r.rest.take n).length
  ⟨⟨r.place.index + passed, r.place.line, r.place.column + passed⟩, r.rest.drop n⟩

/-- What is left behind the characters of a kind, none of which ends a line. -/
def skipWhile (r : Reading) (p : Char → Bool) : Reading := r.skip (r.rest.takeWhile p).length

/-- What is left behind a line end, with the line end as it is kept. -/
def takeBreak (r : Reading) : List Char × Reading :=
  let behind (n : Nat) : Reading := ⟨⟨r.place.index + n, r.place.line + 1, 0⟩, r.rest.drop n⟩
  match r.rest with
  | '\r' :: '\n' :: _ => (['\n'], behind 2)
  | c :: _ =>
    if c == '\u2028' || c == '\u2029' then ([c], behind 1)
    else if isBreak c then (['\n'], behind 1)
    else ([], r)
  | [] => ([], r)

/-- What is left behind a line end. -/
def skipBreak (r : Reading) : Reading := r.takeBreak.2

/-- What is left of a line behind blanks and a comment, if nothing else is on it. -/
def skipLineRest? (r : Reading) : Option Reading :=
  let r := r.skipWhile isSpaceOrTab
  let r := if r.has '#' then r.skipWhile (!isBreak ·) else r
  if r.isAtLineEnd then some r else none

/-- Whether a mark of three equal characters stands alone at the start of a line. -/
def hasLineMark (r : Reading) (c : Char) : Bool :=
  r.place.column == 0 && r.hasAt 0 c && r.hasAt 1 c && r.hasAt 2 c && r.isGapAt 3

/-- Whether a mark between documents comes next. -/
def hasDocumentMark (r : Reading) : Bool := r.hasLineMark '-' || r.hasLineMark '.'

end Reading

/-- A text from its start.  A mark of byte order before it does not count. -/
def Reading.ofText (text : String) : Except SyntaxProblem Reading :=
  let (chars, bytes) := match text.toList with
    | '\ufeff' :: rest => (rest, 3)
    | chars => (chars, 0)
  match chars.find? (!isAllowed ·) with
  | none => .ok ⟨.start, chars⟩
  | some _ =>
    let before := String.ofList (chars.takeWhile isAllowed)
    .error ⟨"control characters are not allowed", .start, bytes + before.utf8ByteSize, none⟩

end EnergyAudit.Yaml
