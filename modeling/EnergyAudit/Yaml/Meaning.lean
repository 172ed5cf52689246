import EnergyAudit.Decimal.Text
import EnergyAudit.Text.Quoted
import EnergyAudit.Yaml.Document

/-!
# What scalars mean

A plain scalar is a text unless it looks like something else.  A tag may say what it has to be.

## Main definitions

* `wholeNumber?`, `negativeNumber?`, `floatNumber?` — numbers as scalars.
* `Meaning`, `plainMeaning` — what a plain scalar means.
* `Node.Scalar.meaning` — what a scalar means.
-/

namespace EnergyAudit.Yaml

open EnergyAudit.Decimal EnergyAudit.Text

/-! ### Numbers -/

/-- Whether a text is nothing. -/
def isNullText (text : String) : Bool := ["null", "Null", "NULL", "~"].contains text

/-- The truth value of a text. -/
def truthValue? (text : String) : Option Bool :=
  if ["true", "True", "TRUE"].contains text then some true
  else if ["false", "False", "FALSE"].contains text then some false
  else none

/-- Whether a text is a zero followed by other digits, which is no number. -/
def hasLeadingZero (text : List Char) : Bool :=
  let digits := match text with
    | '-' :: rest | '+' :: rest => rest
    | _ => text
  match digits with
  | '0' :: rest => !rest.isEmpty && rest.all Char.isDigit
  | _ => false

/-- A number that is written with digits of some base, at least one. -/
def digitsNumber? (base : Nat) (digits : List Char) : Option Nat :=
  if digits.isEmpty then none else numberIn? base digits

/-- The base that is named by two characters. -/
def markedBase? : List Char → Option (Nat × List Char)
  | '0' :: 'x' :: rest => some (16, rest)
  | '0' :: 'o' :: rest => some (8, rest)
  | '0' :: 'b' :: rest => some (2, rest)
  | _ => none

/-- A number without a minus sign, below a bound. -/
def wholeNumber? (bound : Nat) (text : List Char) : Option Nat :=
  let unsigned := match text with
    | '+' :: rest => rest
    | _ => text
  let plain := if hasLeadingZero text then none else digitsNumber? 10 unsigned
  let number? := match markedBase? unsigned with
    | some (base, digits) => digitsNumber? base digits
    | none => plain
  number?.filter (· < bound)

/-- A number with a minus sign, not below the negative of a bound. -/
def negativeNumber? (bound : Nat) : List Char → Option Int
  | '-' :: rest =>
    let number? := match markedBase? rest with
      | some (base, digits) => digitsNumber? base digits
      | none => if hasLeadingZero rest then none else digitsNumber? 10 rest
    (number?.filter (· ≤ bound)).map fun n => -(n : Int)
  | _ => none

/-- A decimal number with a point or an exponent or without. -/
def decimalNumber? (text : List Char) : Option Float :=
  let (whole, wholeLength, rest) := takeDigits text
  let (fraction, places, rest) := match rest with
    | '.' :: rest => takeDigits rest
    | _ => (0, 0, rest)
  if wholeLength + places == 0 then none
  else
    let mantissa := whole * Nat.pow 10 places + fraction
    match rest with
    | [] => scientificFloat? mantissa (-places)
    | c :: rest =>
      if c != 'e' && c != 'E' then none
      else
        let (sign, digits) : Int × List Char := match rest with
          | '+' :: rest => (1, rest)
          | '-' :: rest => (-1, rest)
          | _ => (1, rest)
        let (exponent, length, rest) := takeDigits digits
        if length == 0 || !rest.isEmpty then none
        else scientificFloat? mantissa (sign * exponent - places)

/-- A float.  What is out of range is none. -/
def floatNumber? (text : String) : Option Float :=
  if [".inf", ".Inf", ".INF", "+.inf", "+.Inf", "+.INF"].contains text then some (1.0 / 0.0)
  else if ["-.inf", "-.Inf", "-.INF"].contains text then some (-1.0 / 0.0)
  else if [".nan", ".NaN", ".NAN"].contains text then some (0.0 / 0.0)
  else match text.toList with
    | '+' :: rest => decimalNumber? rest
    | '-' :: rest => (decimalNumber? rest).map (- ·)
    | chars => decimalNumber? chars

/-! ### Meanings -/

/-- What a scalar means. -/
inductive Meaning where
  | null
  | boolean (value : Bool)
  | integer (value : Int)
  /-- An integer that does not fit into 64 bits. -/
  | wideInteger (value : Int)
  | float (value : Float)
  | text (value : String)

/-- The meaning of an integer, if a text is one. -/
def integerMeaning? (text : String) : Option Meaning :=
  let chars := text.toList
  match wholeNumber? UInt64.size chars, negativeNumber? (Nat.pow 2 63) chars with
  | some n, _ => some (.integer n)
  | none, some n => some (.integer n)
  | none, none =>
    match wholeNumber? (Nat.pow 2 128) chars, negativeNumber? (Nat.pow 2 127) chars with
    | some n, _ => some (.wideInteger n)
    | none, some n => some (.wideInteger n)
    | none, none => none

/-- The meaning of a plain scalar without a tag. -/
def plainMeaning (text : String) : Meaning :=
  if text.isEmpty || isNullText text then .null
  else match truthValue? text, integerMeaning? text with
    | some b, _ => .boolean b
    | none, some m => m
    | none, none =>
      match if hasLeadingZero text.toList then none else floatNumber? text with
      | some x => .float x
      | none => .text text

/-- The tag of a kind of scalar. -/
def coreTag (kind : String) : String := "tag:yaml.org,2002:" ++ kind

/-- What a scalar has to be, and is not. -/
structure Mistagged where
  text : String
  expected : String

/-- The meaning of a scalar with its tag. -/
def Scalar.meaning (s : Scalar) (tag : Option String) : Except Mistagged Meaning :=
  let untagged : Meaning := if s.style == .plain then plainMeaning s.text else .text s.text
  let required (expected : String) (m : Option Meaning) : Except Mistagged Meaning :=
    match m with
    | some m => .ok m
    | none => .error ⟨s.text, expected⟩
  match tag with
  | none => .ok untagged
  | some tag =>
    if tag == coreTag "bool" then required "a boolean" ((truthValue? s.text).map .boolean)
    else if tag == coreTag "int" then required "an integer" (integerMeaning? s.text)
    else if tag == coreTag "float" then required "a float" ((floatNumber? s.text).map .float)
    else if tag == coreTag "null" then
      required "null" (if isNullText s.text then some .null else none)
    else if tag.startsWith "!" then .ok untagged
    else .ok (.text s.text)

/-- A float in words: with a point even if it is whole. -/
def floatWords (x : Float) : String :=
  let text := plainText x
  if x.isFinite && !text.contains '.' then text ++ ".0" else text

/-- A meaning in words. -/
def Meaning.words : Meaning → String
  | null => "unit value"
  | boolean b => "boolean `" ++ toString b ++ "`"
  | integer n => "integer `" ++ toString n ++ "`"
  | wideInteger n =>
    "integer `" ++ toString n ++ "` as " ++ if n < 0 then "i128" else "u128"
  | float x => "floating point `" ++ floatWords x ++ "`"
  | text t => "string " ++ quoted t

end EnergyAudit.Yaml
