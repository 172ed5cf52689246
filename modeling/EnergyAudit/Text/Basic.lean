/-!
# Blanks, lines and digits

The characters that count as blank at the ends of a text, and texts without them; the lines of a
text; and the numbers in it.  A line ends with a line feed or with a carriage return and a line
feed; what follows the last of these is a line unless it is empty.

## Main definitions

* `isBlank` — the characters with the Unicode property White_Space.
* `trimStart`, `trimEnd`, `trim` — a text without blanks at its ends.
* `lines` — the lines of a text without what ends them.
* `ofLines` — the text of some lines.
* `hexValue?` — the value of a hexadecimal digit.
* `numberIn?` — a number in some base.
* `takeDigits` — the number at the start of a text.
-/

namespace EnergyAudit.Text

/-! ### Blanks -/

/-- Whether a character is blank. -/
def isBlank (c : Char) : Bool :=
  ('\t' ≤ c && c ≤ '\r') || c == ' ' || c == '\u0085' || c == '\u00a0' || c == '\u1680' ||
    ('\u2000' ≤ c && c ≤ '\u200a') || c == '\u2028' || c == '\u2029' || c == '\u202f' ||
    c == '\u205f' || c == '\u3000'

/-- The text without blanks at its start. -/
def trimStart (text : List Char) : List Char := text.dropWhile isBlank

/-- The text without blanks at its end. -/
def trimEnd (text : List Char) : List Char := (text.reverse.dropWhile isBlank).reverse

/-- The text without blanks at either end. -/
def trim (text : List Char) : List Char := trimEnd (trimStart text)

/-- Whether a text holds nothing but blanks. -/
def isAllBlank (text : String) : Bool := text.toList.all isBlank

/-- The string without blanks at its end. -/
def trimmedEnd (text : String) : String := .ofList (trimEnd text.toList)

/-! ### Lines -/

/-- A line, given backwards, without the carriage return before its line feed. -/
def finishedLine : List Char → List Char
  | '\r' :: rest => rest.reverse
  | reversed => reversed.reverse

/-- The lines of a text, after the start of the first one, which is given backwards. -/
def linesFrom (reversed : List Char) : List Char → List (List Char)
  | [] => if reversed.isEmpty then [] else [reversed.reverse]
  | '\n' :: rest => finishedLine reversed :: linesFrom [] rest
  | c :: rest => linesFrom (c :: reversed) rest

/-- The lines of a text. -/
def lines (text : String) : List String := (linesFrom [] text.toList).map String.ofList

/-- The text of some lines, each with a line feed. -/
def ofLines (lines : List String) : String := String.join (lines.map fun line => line ++ "\n")

/-! ### Digits -/

/-- The value of a hexadecimal digit. -/
def hexValue? (c : Char) : Option Nat :=
  if c.isDigit then some (c.toNat - '0'.toNat)
  else if 'a' ≤ c && c ≤ 'f' then some (c.toNat - 'a'.toNat + 10)
  else if 'A' ≤ c && c ≤ 'F' then some (c.toNat - 'A'.toNat + 10)
  else none

/-- A number in some base up to sixteen, if all its characters are digits. -/
def numberIn? (base : Nat) (digits : List Char) : Option Nat :=
  digits.foldlM (fun n c => do
    let digit ← hexValue? c
    if digit < base then some (n * base + digit) else none) 0

/-- The digits at the start of a text, as a number, with how many there are and what is behind
them. -/
def takeDigits (text : List Char) : Nat × Nat × List Char :=
  let digits := text.takeWhile Char.isDigit
  (digits.foldl (fun n d => n * 10 + (d.toNat - '0'.toNat)) 0, digits.length,
    text.dropWhile Char.isDigit)

/-- A number is written with digits only. -/
theorem not_mem_toDigits {c : Char} (hc : c.isDigit = false) (n : Nat) :
    c ∉ Nat.toDigits 10 n := by
  intro hmem
  have hdigit : c.isDigit = true := Nat.isDigit_of_mem_toDigits (by decide) (by decide) hmem
  exact Bool.false_ne_true (hc.symm.trans hdigit)

end EnergyAudit.Text
