import EnergyAudit.Decimal.Text

/-!
# JSON values

## Main definitions

* `Json` — JSON values; the members of an object keep their order.
* `Json.compact`, `Json.pretty` — JSON text on one line, or over lines with two blanks for each
  level.
-/

namespace EnergyAudit

/-- A number in JSON: whole where it is written so and fits into 64 bits, else a float. -/
inductive JsonNumber where
  | whole (value : Int)
  | float (value : Float)
deriving BEq

/-- A JSON value. -/
inductive Json where
  | null
  | bool (value : Bool)
  | number (value : JsonNumber)
  | string (text : String)
  | array (items : List Json)
  | object (members : List (String × Json))
deriving Inhabited

namespace Json

/-- A whole number. -/
def nat (n : Nat) : Json := .number (.whole n)

/-- A float. -/
def float (x : Float) : Json := .number (.float x)

/-- A value that may be absent. -/
def optional {α : Type} (f : α → Json) : Option α → Json
  | none => .null
  | some a => f a

/-- A list of strings. -/
def strings (texts : List String) : Json := .array (texts.map .string)

/-- The last member of an object with a name. -/
def member? (name : String) : Json → Option Json
  | object members => (members.reverse.find? fun m => m.1 == name).map Prod.snd
  | _ => none

end Json

/-! ### Text -/

/-- The hexadecimal digit of a number below 16. -/
def hexDigit (n : Nat) : Char := Nat.digitChar n

/-- A character within a JSON string. -/
def escapedChar (c : Char) : String :=
  match c with
  | '"' => "\\\""
  | '\\' => "\\\\"
  | '\x08' => "\\b"
  | '\x0c' => "\\f"
  | '\n' => "\\n"
  | '\r' => "\\r"
  | '\t' => "\\t"
  | c =>
    if c.val < 32 then "\\u00" ++ .ofList [hexDigit (c.toNat / 16), hexDigit (c.toNat % 16)]
    else c.toString

/-- A string as JSON text. -/
def jsonString (text : String) : String :=
  "\"" ++ text.foldl (fun written c => written ++ escapedChar c) "" ++ "\""

/-- A number as JSON text; what is no number is written as `null`. -/
def JsonNumber.text : JsonNumber → String
  | whole value => toString value
  | float value => if value.isFinite then Decimal.dataText value else "null"

namespace Json

/-- Values that hold no others as JSON text. -/
def scalarText : Json → String
  | null => "null"
  | bool true => "true"
  | bool false => "false"
  | number value => value.text
  | string text => jsonString text
  | array _ => "[]"
  | object _ => "\x7b\x7d"

mutual

/-- Adds a value to a text, without blanks. -/
def writeCompact (written : String) : Json → String
  | array items => writeItems (written.push '[') true items |>.push ']'
  | object members => writeMembers (written.push '\x7b') true members |>.push '\x7d'
  | value => written ++ value.scalarText

/-- Adds the items of an array to a text. -/
def writeItems (written : String) (isFirst : Bool) : List Json → String
  | [] => written
  | item :: rest =>
    writeItems (item.writeCompact (if isFirst then written else written.push ',')) false rest

/-- Adds the members of an object to a text. -/
def writeMembers (written : String) (isFirst : Bool) : List (String × Json) → String
  | [] => written
  | (name, value) :: rest =>
    let written := (if isFirst then written else written.push ',') ++ jsonString name ++ ":"
    writeMembers (value.writeCompact written) false rest

end

/-- The value as JSON text on one line. -/
def compact (value : Json) : String := writeCompact "" value

/-- A new line that is indented to some level. -/
def newLine (written : String) (level : Nat) : String :=
  level.repeat (· ++ "  ") (written.push '\n')

mutual

/-- Adds a value to a text, over lines. -/
def writePretty (written : String) (level : Nat) : Json → String
  | array (item :: rest) =>
    newLine (writePrettyItems (written.push '[') (level + 1) true (item :: rest)) level |>.push ']'
  | object (member :: rest) =>
    newLine (writePrettyMembers (written.push '\x7b') (level + 1) true (member :: rest)) level
      |>.push '\x7d'
  | value => written ++ value.scalarText

/-- Adds the items of an array to a text, each on a line of its own. -/
def writePrettyItems (written : String) (level : Nat) (isFirst : Bool) : List Json → String
  | [] => written
  | item :: rest =>
    let written := newLine (if isFirst then written else written.push ',') level
    writePrettyItems (item.writePretty written level) level false rest

/-- Adds the members of an object to a text, each on a line of its own. -/
def writePrettyMembers (written : String) (level : Nat) (isFirst : Bool) :
    List (String × Json) → String
  | [] => written
  | (name, value) :: rest =>
    let written := newLine (if isFirst then written else written.push ',') level
    writePrettyMembers (value.writePretty (written ++ jsonString name ++ ": ") level) level false
      rest

end

/-- The value as JSON text over lines. -/
def pretty (value : Json) : String := writePretty "" 0 value

end Json

end EnergyAudit
