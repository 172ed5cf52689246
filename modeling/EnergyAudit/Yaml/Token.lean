import EnergyAudit.Yaml.Scalar

/-!
# Tokens of a YAML text

A token is a mark, a scalar, or a property of a node.  Marks for the start and the end of what is
shown by indentation are tokens too, without characters of their own.

## Main definitions

* `TokenKind`, `Token` — a token and where it stands.
* `readAnchorName`, `readTag`, `readDirective` — readers for the tokens that have parts.
-/

namespace EnergyAudit.Yaml

open EnergyAudit.Text

/-- What a token is. -/
inductive TokenKind where
  /-- The end of the text. -/
  | textEnd
  /-- A directive that names a version. -/
  | versionDirective (major minor : Nat)
  /-- A directive that says what a handle of tags stands for. -/
  | tagDirective (handle expansion : String)
  /-- A mark before a document. -/
  | documentStart
  /-- A mark behind a document. -/
  | documentEnd
  /-- The start of a sequence that is shown by indentation. -/
  | blockSequenceStart
  /-- The start of a mapping that is shown by indentation. -/
  | blockMappingStart
  /-- The end of what is shown by indentation. -/
  | blockEnd
  /-- An opening square bracket. -/
  | flowSequenceStart
  /-- A closing square bracket. -/
  | flowSequenceEnd
  /-- An opening curly bracket. -/
  | flowMappingStart
  /-- A closing curly bracket. -/
  | flowMappingEnd
  /-- A dash before an item. -/
  | blockEntry
  /-- A comma between items. -/
  | flowEntry
  /-- The place before a key. -/
  | key
  /-- A colon before a value. -/
  | value
  /-- A name that stands for a node elsewhere. -/
  | reference (name : String)
  /-- A name given to the node that follows. -/
  | anchor (name : String)
  /-- A tag of the node that follows. -/
  | tag (handle suffix : String)
  /-- A piece of text. -/
  | scalar (scalar : Scalar)
deriving BEq, DecidableEq, Repr

/-- A token with its place and the place behind it. -/
structure Token where
  kind : TokenKind
  start : Place
  stop : Place

/-! ### Names -/

/-- The characters of a kind that come next, and what is left behind them. -/
def Reading.takeWhile (r : Reading) (p : Char → Bool) : String × Reading :=
  (String.ofList (r.rest.takeWhile p), r.skipWhile p)

/-- Whether a character may follow a name directly. -/
def endsName (c : Char) : Bool :=
  ['?', ':', ',', ']', '\x7d', '%', '@', '\x60'].contains c

/-- Reads the name of an anchor or of a reference, with the mark before it. -/
def readAnchorName (isReference : Bool) (r : Reading) : Except SyntaxProblem (String × Reading) :=
  let (name, behind) := (r.skip 1).takeWhile isNameChar
  if name.isEmpty || !(behind.isGapAt 0 || behind.isAt 0 endsName) then
    .error (.within (if isReference then "while scanning an alias" else "while scanning an anchor")
      r.place behind.place "did not find expected alphabetic or numeric character")
  else .ok (name, behind)

/-! ### Tags -/

/-- Whether a character may stand in a tag.  Some marks may do so only where they cannot be taken
for something else. -/
def isTagChar (isFree : Bool) (c : Char) : Bool :=
  isNameChar c ||
    [';', '/', '?', ':', '@', '&', '=', '+', '$', '.', '%', '!', '~', '*', '\'', '(', ')'].contains c ||
    (isFree && [',', '[', ']'].contains c)

/-- The number of bytes of a character whose first byte is given. -/
def byteCount? (byte : Nat) : Option Nat :=
  if byte < 0x80 then some 1
  else if 0xc0 ≤ byte && byte < 0xe0 then some 2
  else if 0xe0 ≤ byte && byte < 0xf0 then some 3
  else if 0xf0 ≤ byte && byte < 0xf8 then some 4
  else none

/-- Reads a byte that is written as two digits behind a percent sign. -/
def readByte? (r : Reading) : Option (Nat × Reading) :=
  match r.rest with
  | '%' :: a :: b :: _ =>
    match hexValue? a, hexValue? b with
    | some a, some b => some (a * 16 + b, r.skip 3)
    | _, _ => none
  | _ => none

/-- Reads further bytes of a character, adding them to a code. -/
def readMoreBytes (context : String) (start : Place) : Nat → Nat → Reading →
    Except SyntaxProblem (Nat × Reading)
  | 0, code, r => .ok (code, r)
  | n + 1, code, r =>
    match readByte? r with
    | none => .error (.within context start r.place "did not find URI escaped octet")
    | some (byte, behind) =>
      if byte < 0x80 || 0xc0 ≤ byte then
        .error (.within context start r.place "found an incorrect trailing UTF-8 octet")
      else readMoreBytes context start n (code * 64 + byte % 64) behind

/-- Reads a character that is written byte by byte. -/
def readTagEscape (context : String) (start : Place) (r : Reading) :
    Except SyntaxProblem (Char × Reading) :=
  match readByte? r with
  | none => .error (.within context start r.place "did not find URI escaped octet")
  | some (byte, behind) =>
    match byteCount? byte with
    | none => .error (.within context start r.place "found an incorrect leading UTF-8 octet")
    | some count =>
      let bits := if count ≤ 1 then byte else byte % Nat.pow 2 (7 - count)
      (readMoreBytes context start (count - 1) bits behind).map fun (code, r) => (.ofNat code, r)

/-- Reads characters of a tag, adding them to what is given backwards. -/
def readTagChars (context : String) (start : Place) (isFree : Bool) : Nat → List Char → Reading →
    Except SyntaxProblem (List Char × Reading)
  | 0, text, r => .ok (text, r)
  | fuel + 1, text, r =>
    match r.next? with
    | none => .ok (text, r)
    | some c =>
      if c == '%' then
        match readTagEscape context start r with
        | .error e => .error e
        | .ok (escaped, r) => readTagChars context start isFree fuel (escaped :: text) r
      else if isTagChar isFree c then
        readTagChars context start isFree fuel (c :: text) (r.skip 1)
      else .ok (text, r)

/-- Reads a tag or a part of one, behind what of it has been read as a handle. -/
def readTagText (isDirective : Bool) (start : Place) (isFree : Bool) (handle : String)
    (r : Reading) : Except SyntaxProblem (String × Reading) :=
  let context := if isDirective then "while parsing a %TAG directive" else "while parsing a tag"
  match readTagChars context start isFree (r.rest.length + 1) [] r with
  | .error e => .error e
  | .ok (text, behind) =>
    if text.isEmpty && handle.isEmpty then
      .error (.within context start behind.place "did not find expected tag URI")
    else .ok (String.ofList (handle.toList.drop 1 ++ text.reverse), behind)

/-- Reads the handle of a tag: an exclamation mark, or a name between two. -/
def readTagHandle (isDirective : Bool) (start : Place) (r : Reading) :
    Except SyntaxProblem (String × Reading) :=
  if !r.has '!' then
    .error (.within (if isDirective then "while scanning a tag directive" else "while scanning a tag")
      start r.place "did not find expected '!'")
  else
    let (name, behind) := (r.skip 1).takeWhile isNameChar
    if behind.has '!' then .ok ("!" ++ name ++ "!", behind.skip 1)
    else if isDirective && !name.isEmpty then
      .error (.within "while parsing a tag directive" start behind.place
        "did not find expected '!'")
    else .ok ("!" ++ name, behind)

/-- Reads a tag: between angle brackets, with a handle, or with an exclamation mark alone. -/
def readTag (inFlow : Bool) (r : Reading) : Except SyntaxProblem (TokenKind × Reading) := do
  let start := r.place
  let (kind, r) ← if r.hasAt 1 '<' then do
      let (suffix, r) ← readTagText false start true "" (r.skip 2)
      if r.has '>' then pure (TokenKind.tag "" suffix, r.skip 1)
      else throw (.within "while scanning a tag" start r.place "did not find the expected '>'")
    else do
      let (handle, r) ← readTagHandle false start r
      if handle.length > 1 && handle.endsWith "!" then
        let (suffix, r) ← readTagText false start false "" r
        pure (TokenKind.tag handle suffix, r)
      else
        let (suffix, r) ← readTagText false start false handle r
        pure (if suffix.isEmpty then TokenKind.tag "" "!" else TokenKind.tag "!" suffix, r)
  if r.isGapAt 0 || (inFlow && r.has ',') then return (kind, r)
  else
    throw (.within "while scanning a tag" start r.place
      "did not find expected whitespace or line break")

/-! ### Directives -/

/-- Reads a number of a version. -/
def readVersionNumber (start : Place) (r : Reading) : Except SyntaxProblem (Nat × Reading) :=
  let context := "while scanning a %YAML directive"
  let digits := r.rest.takeWhile Char.isDigit
  if digits.length > 9 then
    .error (.within context start (r.skip 9).place "found extremely long version number")
  else if digits.isEmpty then
    .error (.within context start r.place "did not find expected version number")
  else .ok (digits.foldl (fun n c => n * 10 + (c.toNat - '0'.toNat)) 0, r.skip digits.length)

/-- Reads the version that a directive names. -/
def readVersion (start : Place) (r : Reading) : Except SyntaxProblem (TokenKind × Reading) := do
  let (major, r) ← readVersionNumber start (r.skipWhile isSpaceOrTab)
  if !r.has '.' then
    throw (.within "while scanning a %YAML directive" start r.place
      "did not find expected digit or '.' character")
  let (minor, r) ← readVersionNumber start (r.skip 1)
  return (.versionDirective major minor, r)

/-- Reads a handle of tags and what it stands for. -/
def readTagExpansion (start : Place) (r : Reading) :
    Except SyntaxProblem (TokenKind × Reading) := do
  let context := "while scanning a %TAG directive"
  let (handle, r) ← readTagHandle true start (r.skipWhile isSpaceOrTab)
  if !r.isAt 0 isSpaceOrTab then
    throw (.within context start r.place "did not find expected whitespace")
  let (expansion, r) ← readTagText true start true "" (r.skipWhile isSpaceOrTab)
  if !r.isGapAt 0 then
    throw (.within context start r.place "did not find expected whitespace or line break")
  return (.tagDirective handle expansion, r)

/-- Reads a directive with the rest of its line.  Gives the place behind it too. -/
def readDirective (r : Reading) : Except SyntaxProblem (TokenKind × Place × Reading) := do
  let context := "while scanning a directive"
  let start := r.place
  let (name, r) := (r.skip 1).takeWhile isNameChar
  if name.isEmpty then
    throw (.within context start r.place "could not find expected directive name")
  if !r.isGapAt 0 then
    throw (.within context start r.place "found unexpected non-alphabetical character")
  let (kind, r) ←
    if name == "YAML" then readVersion start r
    else if name == "TAG" then readTagExpansion start r
    else throw (.within context start r.place "found unknown directive name")
  match r.skipLineRest? with
  | some behind => return (kind, r.place, behind.skipBreak)
  | none =>
    throw (.within context start (r.skipWhile isSpaceOrTab).place
      "did not find expected comment or line break")

end EnergyAudit.Yaml
