import EnergyAudit.Grammar.Rule

/-!
# Python tokens

The tokens of Python that are not fixed texts, and the tokens that depend on the layout of lines.

## Main definitions

* `Python.identifier`, `Python.integer`, … — the tokens.
* `Python.blank` — the blanks between tokens.
* `Python.layoutTokens` — ends of lines, changes of indentation and the parts of strings.
-/

namespace EnergyAudit.Python

open EnergyAudit.Grammar

/-! ### Letters -/

/-- One letter of a text. -/
def oneOf (letters : String) : Pattern := .letter (.ofText letters)

/-- Any letter but those of a text. -/
def noneOf (letters : String) : Pattern := .letter (LetterSet.ofText letters).except

/-- A decimal digit. -/
def digit : Pattern := .letter (.range '0' '9')

/-- A hexadecimal digit. -/
def hexDigit : Pattern :=
  .letter (((LetterSet.range '0' '9').union (.range 'a' 'f')).union (.range 'A' 'F'))

/-- The end of a line. -/
def lineEnd : Pattern := .all [.optional (.text "\r"), .text "\n"]

/-- One blank between tokens. -/
def blank : Pattern :=
  .any [.letter (((LetterSet.range '\t' '\r').union (.single ' '.toNat)).union
    (.single invisibleSpaceLetter)), lineEnd]

/-! ### Tokens -/

/-- A name. -/
def identifier : Token :=
  .ofPattern "identifier"
    (.all [.letter .identifierStart, .optional (.many (.letter .identifierContinue))])

/-- Digits of a base after its mark, with single underscores between. -/
def markedDigits (marks : String) (body : Pattern) : Pattern :=
  .all [.text "0", oneOf marks, .many (.all [.optional (.text "_"), .many body]),
    .optional (oneOf "Ll")]

/-- Decimal digits, with single underscores between. -/
def digits : Pattern := .many (.all [.many digit, .optional (.text "_")])

/-- A whole number, real or imaginary. -/
def integer : Token :=
  .ofPattern "integer" (.any [
    markedDigits "xX" hexDigit,
    markedDigits "oO" (.letter (.range '0' '7')),
    markedDigits "bB" (.letter (.range '0' '1')),
    .all [digits, .any [.optional (oneOf "Ll"), .optional (oneOf "jJ")]]])

/-- A number with a point or an exponent. -/
def float : Token :=
  let exponent := Pattern.all [oneOf "eE", .optional (oneOf "+-"), digits]
  .ofPattern "float" (.all [
    .any [
      .all [digits, .text ".", .optional digits, .optional exponent],
      .all [.optional digits, .text ".", digits, .optional exponent],
      .all [digits, exponent]],
    .optional (oneOf "jJ")])

/-- An escape within a string. -/
def escapeSequence : Token where
  name := "escape_sequence"
  named := true
  visible := true
  pattern := .all [.text "\\", .any [
    .all [.text "u", hexDigit.times 4],
    .all [.text "U", hexDigit.times 8],
    .all [.text "x", hexDigit.times 2],
    .all [digit, .optional (.all [digit, .optional digit])],
    lineEnd,
    oneOf "'\"abfrntv\\",
    .all [.text "N\x7b", .many (noneOf "\x7d"), .text "\x7d"]]]
  literal := false
  immediate := true
  level := 1

/-- A backslash within a string that begins no escape. -/
def loneBackslash : Token := ⟨"\\", false, true, .text "\\", true, true, 0⟩

/-- Text within a format specifier. -/
def formatText : Token :=
  ⟨"format text", false, false, .many (noneOf "\x7b\x7d\n"), false, false, 1⟩

/-- The conversion of a replacement field. -/
def typeConversion : Token :=
  .ofPattern "type_conversion" (.all [.text "!", .letter (.range 'a' 'z')])

/-- A comment. -/
def comment : Token :=
  .ofPattern "comment" (.all [.text "#", .optional (.many (noneOf "\n"))])

/-- A line that continues on the next one. -/
def lineContinuation : Token :=
  { Token.ofPattern "line_continuation" (.all [.text "\\", .any [lineEnd, .letter (.single 0)]]) with
    level := 1 }

/-! ### Layout -/

/-- The tokens that depend on the layout of lines or on the string that is open. -/
def layoutTokens : List LayoutToken :=
  [.own "_newline" false, .own "_indent" false, .own "_dedent" false, .own "string_start" true,
    .own "_string_content" false, .own "escape_interpolation" true, .own "string_end" true,
    .shared "comment", .shared "]", .shared ")", .shared "\x7d", .shared "except"]

end EnergyAudit.Python
