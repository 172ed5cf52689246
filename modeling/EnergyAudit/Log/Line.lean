import EnergyAudit.Text.Quoted

/-!
# Log lines

What the program tells of its work to those who ask.

## Main definitions

* `LogLevel` — how much a line matters.
* `LogLine` — a message with fields, on a topic.
* `LogLine.text` — the line as it is written.
-/

namespace EnergyAudit

open EnergyAudit.Text

/-- How much a line matters. -/
inductive LogLevel where
  | error
  | warn
  | info
  | debug
  | trace
deriving BEq, DecidableEq, Repr

namespace LogLevel

/-- The number of a level; what matters most comes first. -/
def rank : LogLevel → Nat
  | error => 1
  | warn => 2
  | info => 3
  | debug => 4
  | trace => 5

/-- The name of a level. -/
def name : LogLevel → String
  | error => "ERROR"
  | warn => "WARN"
  | info => "INFO"
  | debug => "DEBUG"
  | trace => "TRACE"

end LogLevel

/-- A message with fields.  The topic says which part of the program it comes from; its parts are
divided by two colons. -/
structure LogLine where
  level : LogLevel
  topic : String
  message : String
  /-- The names of the fields with their values as they are written. -/
  fields : List (String × String)
deriving BEq, DecidableEq, Repr

/-- A field with a value as it is. -/
def bareField (name value : String) : String × String := (name, value)

/-- A field with a value in quotes. -/
def quotedField (name value : String) : String × String := (name, quoted value)

/-- The line as it is written. -/
def LogLine.text (l : LogLine) : String :=
  l.level.name ++ " " ++ l.message ++
    String.join (l.fields.map fun field => " " ++ field.1 ++ "=" ++ field.2)

end EnergyAudit
