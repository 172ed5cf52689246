/-!
# Styled text

Text for a terminal, which may be bold, faint or in colour.

## Main definitions

* `Style` — how a text looks.
* `Style.paint` — a text in a style, where styles are wanted.
* `padLeft`, `padRight` — a text with blanks up to some width.
* `isColorWanted` — whether styles are wanted in an environment.
-/

namespace EnergyAudit.Terminal

/-- A colour of text. -/
inductive Color where
  | red
  | green
  | yellow
  | cyan
deriving BEq, DecidableEq, Repr

/-- The code of a colour. -/
def Color.code : Color → String
  | red => "31"
  | green => "32"
  | yellow => "33"
  | cyan => "36"

/-- How a text looks. -/
structure Style where
  isBold : Bool
  isFaint : Bool
  color : Option Color
deriving BEq, DecidableEq, Repr

namespace Style

/-- Bold text. -/
def bold : Style := ⟨true, false, none⟩

/-- Faint text. -/
def faint : Style := ⟨false, true, none⟩

/-- Text in a colour. -/
def colored (c : Color) : Style := ⟨false, false, some c⟩

/-- Bold text in a colour. -/
def boldColored (c : Color) : Style := ⟨true, false, some c⟩

/-- What starts a style. -/
def opening (s : Style) : String :=
  "\x1b[" ++ ";".intercalate
    ((if s.isBold then ["1"] else []) ++ (if s.isFaint then ["2"] else []) ++
      s.color.toList.map Color.code) ++ "m"

/-- What ends every style. -/
def closing : String := "\x1b[0m"

/-- Starts a style again wherever a text itself ends all styles. -/
def reopenWithin (opening : List Char) : List Char → List Char
  | '\x1b' :: '[' :: '0' :: 'm' :: rest =>
    '\x1b' :: '[' :: '0' :: 'm' :: opening ++ reopenWithin opening rest
  | c :: rest => c :: reopenWithin opening rest
  | [] => []

/-- A text in a style, or as it is where styles are not wanted. -/
def paint (s : Style) (isWanted : Bool) (text : String) : String :=
  if isWanted then
    s.opening ++ .ofList (reopenWithin s.opening.toList text.toList) ++ closing
  else text

end Style

/-- A text with blanks before it up to some width. -/
def padLeft (width : Nat) (text : String) : String :=
  .ofList (List.replicate (width - text.length) ' ') ++ text

/-- A text with blanks behind it up to some width. -/
def padRight (width : Nat) (text : String) : String :=
  text ++ .ofList (List.replicate (width - text.length) ' ')

/-- The environment variables that say whether styles are wanted. -/
def colorVariables : List String := ["CLICOLOR_FORCE", "NO_COLOR", "CLICOLOR"]

/-- Whether styles are wanted: they may be asked for or refused by the environment, and else a
terminal shows them unless it is told not to. -/
def isColorWanted (environment : String → Option String) (isTerminal : Bool) : Bool :=
  let isOn (name : String) : Option Bool := (environment name).map (· != "0")
  if (isOn "CLICOLOR_FORCE").getD false then true
  else if (environment "NO_COLOR").isSome then false
  else (isOn "CLICOLOR").getD true && isTerminal

end EnergyAudit.Terminal
