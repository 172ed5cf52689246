import EnergyAudit.Decimal.Text
import EnergyAudit.Json.Value
import EnergyAudit.Text.Basic
import EnergyAudit.Text.Quoted

/-!
# Reading JSON

JSON text is read from a list of characters: each reader gives a value and the characters behind it,
or says what is wrong at the first place where something is.  Values can be read as they are, passed
over, or read as what is expected in their place.

## Main definitions

* `JsonError` — with `JsonError.message`.
* `readString`, `readNumber`, `skipValue` — the parts of JSON text.
* `readElements`, `readMembers` — arrays and objects, with a reader for what is in them.
* `Json.parse` — any JSON text as a value.
-/

namespace EnergyAudit

open EnergyAudit.Decimal EnergyAudit.Text

/-- What is wrong with a JSON text. -/
inductive JsonError where
  | endInValue
  | endInObject
  | endInList
  | endInString
  | expectedColon
  | expectedListEnd
  | expectedObjectEnd
  | expectedIdent
  | expectedValue
  | invalidEscape
  | invalidNumber
  | outOfRange
  | controlCharacter
  | keyNotString
  | loneSurrogate
  | endOfHexEscape
  | trailingComma
  | trailingCharacters
  /-- There is something else than what is expected. -/
  | unexpected (actual expected : String)
  | missingField (name : String)
  | duplicateField (name : String)
  | tooShort (length : Nat) (expected : String)
deriving BEq, DecidableEq, Repr

/-- The error in words, without the place where it is. -/
def JsonError.message : JsonError → String
  | endInValue => "EOF while parsing a value"
  | endInObject => "EOF while parsing an object"
  | endInList => "EOF while parsing a list"
  | endInString => "EOF while parsing a string"
  | expectedColon => "expected `:`"
  | expectedListEnd => "expected `,` or `]`"
  | expectedObjectEnd => "expected `,` or `\x7d`"
  | expectedIdent => "expected ident"
  | expectedValue => "expected value"
  | invalidEscape => "invalid escape"
  | invalidNumber => "invalid number"
  | outOfRange => "number out of range"
  | controlCharacter => "control character (\\u0000-\\u001F) found while parsing a string"
  | keyNotString => "key must be a string"
  | loneSurrogate => "lone leading surrogate in hex escape"
  | endOfHexEscape => "unexpected end of hex escape"
  | trailingComma => "trailing comma"
  | trailingCharacters => "trailing characters"
  | unexpected actual expected => "invalid type: " ++ actual ++ ", expected " ++ expected
  | missingField name => "missing field `" ++ name ++ "`"
  | duplicateField name => "duplicate field `" ++ name ++ "`"
  | tooShort length expected => "invalid length " ++ toString length ++ ", expected " ++ expected

/-- The characters behind blanks. -/
def skipJsonBlanks : List Char → List Char
  | c :: rest =>
    if c == ' ' || c == '\n' || c == '\t' || c == '\r' then skipJsonBlanks rest else c :: rest
  | [] => []

/-- The characters behind the rest of a fixed word. -/
def readWord : List Char → List Char → Except JsonError (List Char)
  | [], rest => .ok rest
  | _ :: _, [] => .error .endInValue
  | w :: word, c :: rest => if c == w then readWord word rest else .error .expectedIdent

/-! ### Strings -/

/-- Four hexadecimal digits as a number. -/
def readHex4 : List Char → Except JsonError (Nat × List Char)
  | a :: b :: c :: d :: rest =>
    match hexValue? a, hexValue? b, hexValue? c, hexValue? d with
    | some a, some b, some c, some d => .ok (((a * 16 + b) * 16 + c) * 16 + d, rest)
    | _, _, _, _ => .error .invalidEscape
  | short =>
    .error (if (String.ofList short).utf8ByteSize < 4 then .endInString else .invalidEscape)

/-- The character of an escape by its code; two halves of a pair make one character. -/
def readUnicode (rest : List Char) : Except JsonError (Char × List Char) := do
  let (first, rest) ← readHex4 rest
  if 0xdc00 ≤ first && first ≤ 0xdfff then throw .loneSurrogate
  if first < 0xd800 || 0xdbff < first then return (Char.ofNat first, rest)
  match rest with
  | [] => throw .endInString
  | '\\' :: [] => throw .endInString
  | '\\' :: 'u' :: rest =>
    let (second, rest) ← readHex4 rest
    if second < 0xdc00 || 0xdfff < second then throw .loneSurrogate
    return (Char.ofNat ((first - 0xd800) * 1024 + (second - 0xdc00) + 0x10000), rest)
  | _ => throw .endOfHexEscape

/-- The character of an escape, behind its backslash. -/
def readEscape : List Char → Except JsonError (Char × List Char)
  | [] => .error .endInString
  | '"' :: rest => .ok ('"', rest)
  | '\\' :: rest => .ok ('\\', rest)
  | '/' :: rest => .ok ('/', rest)
  | 'b' :: rest => .ok ('\x08', rest)
  | 'f' :: rest => .ok ('\x0c', rest)
  | 'n' :: rest => .ok ('\n', rest)
  | 'r' :: rest => .ok ('\r', rest)
  | 't' :: rest => .ok ('\t', rest)
  | 'u' :: rest => readUnicode rest
  | _ => .error .invalidEscape

/-- The text of a string behind its first quote, after what has been read of it.  Each character
takes one unit of fuel. -/
def readStringFrom : Nat → String → List Char → Except JsonError (String × List Char)
  | 0, _, _ => .error .endInString
  | _ + 1, _, [] => .error .endInString
  | fuel + 1, text, c :: rest =>
    if c == '"' then .ok (text, rest)
    else if c == '\\' then
      match readEscape rest with
      | .ok (escaped, rest) => readStringFrom fuel (text.push escaped) rest
      | .error e => .error e
    else if c.val < 32 then .error .controlCharacter
    else readStringFrom fuel (text.push c) rest

/-- The text of a string behind its first quote. -/
def readString (rest : List Char) : Except JsonError (String × List Char) :=
  readStringFrom (rest.length + 1) "" rest

/-- The characters behind a string that is passed over. -/
def skipString : Nat → List Char → Except JsonError (List Char)
  | 0, _ => .error .endInString
  | _ + 1, [] => .error .endInString
  | fuel + 1, c :: rest =>
    if c == '"' then .ok rest
    else if c == '\\' then
      match rest with
      | 'u' :: rest => match readHex4 rest with
        | .ok (_, rest) => skipString fuel rest
        | .error e => .error e
      | _ => match readEscape rest with
        | .ok (_, rest) => skipString fuel rest
        | .error e => .error e
    else if c.val < 32 then .error .controlCharacter
    else skipString fuel rest

/-! ### Numbers -/

/-- A number as a float. -/
def readFloat (isNegative : Bool) (mantissa : Nat) (exponent : Int) (rest : List Char) :
    Except JsonError (JsonNumber × List Char) :=
  match scientificFloat? mantissa exponent with
  | some x => .ok (.float (if isNegative then -x else x), rest)
  | none => .error .outOfRange

/-- The exponent of a number behind its letter, and the number. -/
def readExponent (isNegative : Bool) (mantissa : Nat) (places : Nat) (rest : List Char) :
    Except JsonError (JsonNumber × List Char) :=
  let (sign, rest) : Int × List Char := match rest with
    | '+' :: rest => (1, rest)
    | '-' :: rest => (-1, rest)
    | _ => (1, rest)
  match rest with
  | [] => .error .endInValue
  | c :: _ =>
    if !c.isDigit then .error .invalidNumber
    else
      let (exponent, _, rest) := takeDigits rest
      readFloat isNegative mantissa (sign * exponent - places) rest

/-- The fraction of a number behind its point, and the number. -/
def readFraction (isNegative : Bool) (whole : Nat) (rest : List Char) :
    Except JsonError (JsonNumber × List Char) :=
  let (fraction, places, behind) := takeDigits rest
  if places == 0 then .error (if behind.isEmpty then .endInValue else .invalidNumber)
  else
    let mantissa := whole * Nat.pow 10 places + fraction
    match behind with
    | c :: rest =>
      if c == 'e' || c == 'E' then readExponent isNegative mantissa places rest
      else readFloat isNegative mantissa (-places) behind
    | [] => readFloat isNegative mantissa (-places) behind

/-- A whole number; beyond 64 bits it becomes a float. -/
def wholeNumber (isNegative : Bool) (n : Nat) (rest : List Char) :
    Except JsonError (JsonNumber × List Char) :=
  if isNegative then
    if n == 0 then .ok (.float (-0.0), rest)
    else if n ≤ Nat.pow 2 63 then .ok (.whole (-n), rest)
    else readFloat true n 0 rest
  else if n < UInt64.size then .ok (.whole n, rest)
  else readFloat false n 0 rest

/-- A number behind its sign. -/
def readUnsigned (isNegative : Bool) (rest : List Char) :
    Except JsonError (JsonNumber × List Char) :=
  match rest with
  | [] => .error .endInValue
  | c :: behind =>
    if !c.isDigit then .error .invalidNumber
    else if c == '0' && (behind.head?.map Char.isDigit).getD false then .error .invalidNumber
    else
      let (whole, _, behind) := takeDigits rest
      match behind with
      | '.' :: rest => readFraction isNegative whole rest
      | 'e' :: rest | 'E' :: rest => readExponent isNegative whole 0 rest
      | _ => wholeNumber isNegative whole behind

/-- A number. -/
def readNumber : List Char → Except JsonError (JsonNumber × List Char)
  | '-' :: rest => readUnsigned true rest
  | rest => readUnsigned false rest

/-- The characters behind the exponent of a number that is passed over. -/
def skipExponent (rest : List Char) : Except JsonError (List Char) :=
  let rest := match rest with
    | '+' :: rest | '-' :: rest => rest
    | _ => rest
  if (rest.head?.map Char.isDigit).getD false then .ok (rest.dropWhile Char.isDigit)
  else .error .invalidNumber

/-- The characters behind a number that is passed over. -/
def skipNumber (rest : List Char) : Except JsonError (List Char) :=
  let rest := match rest with
    | '-' :: rest => rest
    | _ => rest
  match rest with
  | c :: behind =>
    if !c.isDigit || (c == '0' && (behind.head?.map Char.isDigit).getD false) then
      .error .invalidNumber
    else match rest.dropWhile Char.isDigit with
      | '.' :: rest =>
        if !(rest.head?.map Char.isDigit).getD false then .error .invalidNumber
        else match rest.dropWhile Char.isDigit with
          | 'e' :: rest | 'E' :: rest => skipExponent rest
          | rest => .ok rest
      | 'e' :: rest | 'E' :: rest => skipExponent rest
      | rest => .ok rest
  | [] => .error .invalidNumber

/-! ### Arrays and objects -/

/-- Reads the items of an array behind its bracket, each with a reader that adds to what has been
read so far.  `isFirst` tells whether no item has been read yet. -/
def readElements {α : Type} (item : α → List Char → Except JsonError (α × List Char)) :
    Nat → Bool → α → List Char → Except JsonError (α × List Char)
  | 0, _, _, _ => .error .endInList
  | fuel + 1, isFirst, a, rest =>
    match skipJsonBlanks rest with
    | [] => .error .endInList
    | ']' :: rest => .ok (a, rest)
    | c :: rest => do
      let rest ←
        if isFirst then pure (c :: rest)
        else if c == ',' then
          match skipJsonBlanks rest with
          | [] => throw .endInValue
          | ']' :: _ => throw .trailingComma
          | rest => pure rest
        else throw .expectedListEnd
      let (a, rest) ← item a rest
      readElements item fuel false a rest

/-- The name of a member. -/
def readKey : List Char → Except JsonError (String × List Char)
  | [] => .error .endInValue
  | '"' :: rest => readString rest
  | '\x7d' :: _ => .error .trailingComma
  | _ => .error .keyNotString

/-- The characters behind the colon after the name of a member. -/
def skipColon (rest : List Char) : Except JsonError (List Char) :=
  match skipJsonBlanks rest with
  | [] => .error .endInObject
  | ':' :: rest => .ok rest
  | _ => .error .expectedColon

/-- Reads the members of an object behind its brace, each with a reader that is given its name and
what has been read so far, and that starts at the colon. -/
def readMembers {α : Type} (member : String → α → List Char → Except JsonError (α × List Char)) :
    Nat → Bool → α → List Char → Except JsonError (α × List Char)
  | 0, _, _, _ => .error .endInObject
  | fuel + 1, isFirst, a, rest =>
    match skipJsonBlanks rest with
    | [] => .error .endInObject
    | '\x7d' :: rest => .ok (a, rest)
    | c :: rest => do
      let rest ←
        if isFirst then pure (c :: rest)
        else if c == ',' then pure (skipJsonBlanks rest)
        else throw .expectedObjectEnd
      let (name, rest) ← readKey rest
      let (a, rest) ← member name a rest
      readMembers member fuel false a rest

/-- The characters behind the bracket that ends an array after its last known item. -/
def endArray (rest : List Char) : Except JsonError (List Char) :=
  match skipJsonBlanks rest with
  | [] => .error .endInList
  | ']' :: rest => .ok rest
  | ',' :: rest => match skipJsonBlanks rest with
    | ']' :: _ => .error .trailingComma
    | _ => .error .trailingCharacters
  | _ => .error .trailingCharacters

/-- Only blanks may stand behind a value. -/
def endText (rest : List Char) : Except JsonError Unit :=
  if (skipJsonBlanks rest).isEmpty then .ok () else .error .trailingCharacters

/-! ### Passing over values -/

mutual

/-- The characters behind a value that is passed over. -/
def skipValue : Nat → List Char → Except JsonError (List Char)
  | 0, _ => .error .endInValue
  | fuel + 1, rest =>
    match skipJsonBlanks rest with
    | [] => .error .endInValue
    | 'n' :: rest => readWord "ull".toList rest
    | 't' :: rest => readWord "rue".toList rest
    | 'f' :: rest => readWord "alse".toList rest
    | '"' :: rest => skipString (rest.length + 1) rest
    | '[' :: rest => skipItems fuel true rest
    | '\x7b' :: rest => skipMembers fuel true rest
    | c :: rest =>
      if c == '-' || c.isDigit then skipNumber (c :: rest) else .error .expectedValue

/-- The characters behind the items of an array that is passed over. -/
def skipItems : Nat → Bool → List Char → Except JsonError (List Char)
  | 0, _, _ => .error .endInList
  | fuel + 1, isFirst, rest =>
    match skipJsonBlanks rest with
    | [] => .error .endInList
    | ']' :: rest => .ok rest
    | c :: rest => do
      let rest ←
        if isFirst then pure (c :: rest)
        else if c == ',' then pure rest
        else throw .expectedListEnd
      let rest ← skipValue fuel rest
      skipItems fuel false rest

/-- The characters behind the members of an object that is passed over. -/
def skipMembers : Nat → Bool → List Char → Except JsonError (List Char)
  | 0, _, _ => .error .endInObject
  | fuel + 1, isFirst, rest =>
    match skipJsonBlanks rest with
    | [] => .error .endInObject
    | '\x7d' :: rest => .ok rest
    | c :: rest => do
      let rest ←
        if isFirst then pure (c :: rest)
        else if c == ',' then pure (skipJsonBlanks rest)
        else throw .expectedObjectEnd
      let rest ← match rest with
        | '"' :: rest => skipString (rest.length + 1) rest
        | [] => throw .endInObject
        | _ => throw .keyNotString
      let rest ← skipColon rest
      let rest ← skipValue fuel rest
      skipMembers fuel false rest

end

/-! ### Values -/

/-- The error at a value that is not what is expected in its place: it names what is there, unless
that cannot be read itself. -/
def unexpectedAt (expected : String) (rest : List Char) : JsonError :=
  let named (actual : Except JsonError String) : JsonError :=
    match actual with
    | .ok actual => .unexpected actual expected
    | .error e => e
  match skipJsonBlanks rest with
  | [] => .endInValue
  | 'n' :: rest => named ((readWord "ull".toList rest).map fun _ => "null")
  | 't' :: rest => named ((readWord "rue".toList rest).map fun _ => "boolean `true`")
  | 'f' :: rest => named ((readWord "alse".toList rest).map fun _ => "boolean `false`")
  | '"' :: rest => named ((readString rest).map fun (text, _) => "string " ++ quoted text)
  | '[' :: _ => named (.ok "sequence")
  | '\x7b' :: _ => named (.ok "map")
  | c :: rest =>
    if c == '-' || c.isDigit then
      named ((readNumber (c :: rest)).map fun (number, _) => match number with
        | .whole n => "integer `" ++ toString n ++ "`"
        | .float x => "floating point `" ++ Decimal.dataText x ++ "`")
    else .expectedValue

/-- Any value. -/
def readJson : Nat → List Char → Except JsonError (Json × List Char)
  | 0, _ => .error .endInValue
  | fuel + 1, rest =>
    match skipJsonBlanks rest with
    | [] => .error .endInValue
    | 'n' :: rest => (readWord "ull".toList rest).map fun rest => (.null, rest)
    | 't' :: rest => (readWord "rue".toList rest).map fun rest => (.bool true, rest)
    | 'f' :: rest => (readWord "alse".toList rest).map fun rest => (.bool false, rest)
    | '"' :: rest => (readString rest).map fun (text, rest) => (.string text, rest)
    | '[' :: rest => do
      let item (items : List Json) (rest : List Char) :=
        (readJson fuel rest).map fun (value, rest) => (value :: items, rest)
      let (items, rest) ← readElements item (fuel + 1) true [] rest
      return (.array items.reverse, rest)
    | '\x7b' :: rest => do
      let member (name : String) (members : List (String × Json)) (rest : List Char) := do
        let rest ← skipColon rest
        (readJson fuel rest).map fun (value, rest) => ((name, value) :: members, rest)
      let (members, rest) ← readMembers member (fuel + 1) true [] rest
      return (.object members.reverse, rest)
    | c :: rest =>
      if c == '-' || c.isDigit then
        (readNumber (c :: rest)).map fun (number, rest) => (.number number, rest)
      else .error .expectedValue

/-- The value that a JSON text stands for. -/
def Json.parse (text : String) : Except JsonError Json := do
  let (value, rest) ← readJson (text.length + 1) text.toList
  endText rest
  return value

end EnergyAudit
