/-!
# Arguments of commands

A command takes options and flags, which start with dashes, and other values in their order.  What
an option is given is judged when the next one comes or at the end.

## Main definitions

* `UsageError` — why arguments cannot be understood.
* `Argument`, `Operand`, `Signature` — what a command takes.
* `Arguments.read` — what a command has been given.
-/

namespace EnergyAudit.Command

/-- Why arguments cannot be understood, or why nothing is to be done. -/
inductive UsageError where
  /-- Help is asked for. -/
  | helpAsked
  /-- The version is asked for. -/
  | versionAsked
  /-- There are no arguments at all. -/
  | noArguments
  | missingCommand
  | unknownCommand
  | missingArgument
  | unknownArgument
  /-- A value is missing, empty, or not one of the choices. -/
  | invalidValue
  /-- A value cannot be read. -/
  | unreadableValue
  /-- Something that takes no value is given one. -/
  | unexpectedValue
  | repeatedArgument
deriving BEq, DecidableEq, Repr

/-- What values can be. -/
inductive ValueKind where
  /-- Any text. -/
  | text
  /-- A text that is not empty. -/
  | path
  /-- A number of 64 bits without a minus sign. -/
  | number
  /-- One of some words. -/
  | choice (words : List String)
deriving BEq, DecidableEq, Repr

/-- The number that a text stands for. -/
def readNumber? (text : String) : Option Nat :=
  let digits := match text.toList with
    | '+' :: rest => rest
    | chars => chars
  if digits.isEmpty || !digits.all Char.isDigit then none
  else
    let n := digits.foldl (fun n c => n * 10 + (c.toNat - '0'.toNat)) 0
    if n < UInt64.size then some n else none

/-- Why a value is refused. -/
def ValueKind.refusal? (k : ValueKind) (value : String) : Option UsageError :=
  match k with
  | text => none
  | path => if value.isEmpty then some .invalidValue else none
  | number => if (readNumber? value).isSome then none else some .unreadableValue
  | choice words => if words.contains value then none else some .invalidValue

/-- What an argument does. -/
inductive ArgumentKind where
  /-- It takes one value and stands once. -/
  | value (kind : ValueKind)
  /-- It stands once. -/
  | flag
  /-- It may stand any number of times. -/
  | count
  | help
  | version
deriving BEq, DecidableEq, Repr

/-- An argument that starts with dashes: with two before its name, or with one before its letter. -/
structure Argument where
  name : String
  letter? : Option Char
  kind : ArgumentKind
deriving BEq, DecidableEq, Repr

/-- What stands without dashes. -/
structure Operand where
  name : String
  kind : ValueKind
  /-- Whether there may be more than one. -/
  isMany : Bool
deriving BEq, DecidableEq, Repr

/-- What a command takes. -/
structure Signature where
  arguments : List Argument
  operand? : Option Operand
  /-- What has to be there. -/
  required : List String

/-! ### What has been given -/

/-- What a command has been given. -/
structure Arguments where
  /-- Values by their names, in their order. -/
  values : List (String × String)
  flags : List String
  /-- How often what is counted has been given. -/
  count : Nat

namespace Arguments

/-- Nothing. -/
def none : Arguments := ⟨[], [], 0⟩

/-- The first value with a name. -/
def value? (a : Arguments) (name : String) : Option String := a.values.lookup name

/-- All values with a name. -/
def valuesOf (a : Arguments) (name : String) : List String :=
  (a.values.filter (·.1 == name)).map (·.2)

/-- Whether a value or a flag with a name has been given. -/
def has (a : Arguments) (name : String) : Bool :=
  (a.value? name).isSome || a.flags.contains name

end Arguments

/-- Values that have been read and are still to be judged. -/
structure Waiting where
  name : String
  kind : ValueKind
  isMany : Bool
  values : List String

/-- Arguments that are being read. -/
structure ArgumentReading where
  given : Arguments
  waiting? : Option Waiting
  /-- Whether the last argument is an option that has no value yet. -/
  isOpen : Bool
  /-- How many operands there are. -/
  operands : Nat
  /-- Whether all that follows are operands. -/
  isTrailing : Bool

namespace ArgumentReading

/-- Before the first argument. -/
def start : ArgumentReading := ⟨.none, .none, false, 0, false⟩

/-- Takes values: there has to be one, it may stand only once unless there may be many, and each has
to be of its kind. -/
def accept (s : ArgumentReading) (w : Waiting) : Except UsageError ArgumentReading :=
  if w.values.isEmpty then .error .invalidValue
  else if !w.isMany && s.given.has w.name then .error .repeatedArgument
  else match w.values.findSome? w.kind.refusal? with
    | some error => .error error
    | .none =>
      .ok { s with given :=
        { s.given with values := s.given.values ++ w.values.map fun v => (w.name, v) } }

/-- Judges the values that wait. -/
def settle (s : ArgumentReading) : Except UsageError ArgumentReading :=
  let settled := { s with waiting? := .none, isOpen := false }
  match s.waiting? with
  | .none => .ok settled
  | some w => settled.accept w

/-- An argument without a value. -/
def react (s : ArgumentReading) (a : Argument) : Except UsageError ArgumentReading := do
  let s ← s.settle
  match a.kind with
  | .flag =>
    if s.given.has a.name then throw .repeatedArgument
    else return { s with given := { s.given with flags := a.name :: s.given.flags } }
  | .count => return { s with given := { s.given with count := min (s.given.count + 1) 255 } }
  | .help => throw .helpAsked
  | .version => throw .versionAsked
  | .value _ => return s

/-- An option with the value that is attached to it, if there is one. -/
def open? (s : ArgumentReading) (name : String) (kind : ValueKind) (attached : Option String) :
    Except UsageError ArgumentReading := do
  let s ← s.settle
  match attached with
  | some value => s.accept ⟨name, kind, false, [value]⟩
  | .none => return { s with waiting? := some ⟨name, kind, false, []⟩, isOpen := true }

/-- An argument behind two dashes. -/
def readLong (s : ArgumentReading) (takes : List Argument) (text : List Char) :
    Except UsageError ArgumentReading :=
  let name := String.ofList (text.takeWhile (· != '='))
  let attached := match text.dropWhile (· != '=') with
    | _ :: value => some (String.ofList value)
    | [] => .none
  match takes.find? (·.name == name), attached with
  | .none, _ => .error .unknownArgument
  | some a, _ =>
    match a.kind, attached with
    | .value kind, _ => s.open? a.name kind attached
    | _, some _ => .error .unexpectedValue
    | _, .none => s.react a

/-- Arguments behind one dash, letter by letter. -/
def readLetters (takes : List Argument) : List Char → ArgumentReading →
    Except UsageError ArgumentReading
  | [], s => .ok s
  | c :: rest, s =>
    match takes.find? (·.letter? == some c) with
    | .none => .error .unknownArgument
    | some a =>
      match a.kind with
      | .value kind =>
        let attached := match rest with
          | [] => .none
          | '=' :: value => some (String.ofList value)
          | value => some (String.ofList value)
        s.open? a.name kind attached
      | _ => do readLetters takes rest (← s.react a)

/-- A value without dashes that no option takes. -/
def readOperand (s : ArgumentReading) (operand? : Option Operand) (text : String) :
    Except UsageError ArgumentReading := do
  match operand? with
  | .none => throw .unknownArgument
  | some o =>
    if !o.isMany && 0 < s.operands then throw .unknownArgument
    let s ← s.settle
    return { s with
      waiting? := some ⟨o.name, o.kind, o.isMany, [text]⟩, operands := s.operands + 1 }

/-- One argument. -/
def readOne (s : ArgumentReading) (signature : Signature) (text : String) :
    Except UsageError ArgumentReading :=
  if s.isTrailing then s.readOperand signature.operand? text
  else match text.toList with
    | ['-', '-'] => .ok { s with isTrailing := true }
    | '-' :: '-' :: long => s.readLong signature.arguments long
    | '-' :: c :: letters => readLetters signature.arguments (c :: letters) s
    | _ =>
      match s.waiting?, s.isOpen with
      | some w, true => .ok { s with waiting? := some { w with values := [text] }, isOpen := false }
      | _, _ => s.readOperand signature.operand? text

end ArgumentReading

/-- What a command has been given.  What is not given may have a value all the same. -/
def Arguments.read (signature : Signature) (fallback : List (Waiting)) (texts : List String) :
    Except UsageError Arguments := do
  let s ← texts.foldlM (fun s text => s.readOne signature text) ArgumentReading.start
  let s ← s.settle
  let s ← fallback.foldlM (fun s w => if s.given.has w.name then .ok s else s.accept w) s
  if signature.required.all s.given.has then return s.given else throw .missingArgument

end EnergyAudit.Command
