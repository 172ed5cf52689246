import EnergyAudit.Command.Argument

/-!
# Command lines

A command line names a task, with its options behind it.  The verbosity may stand before the task or
behind it.

## Main definitions

* `Task` — what the program can do; `CommandLine` — a task with the verbosity.
* `CommandLine.parse` — the command line that arguments stand for.
-/

namespace EnergyAudit.Command

/-- How results are written. -/
inductive OutputFormat where
  /-- As a page for people. -/
  | pretty
  /-- As data. -/
  | json
deriving BEq, DecidableEq, Repr

/-- What is asked of an analysis. -/
structure AnalyzeOptions where
  paths : List String
  configuration? : Option String
  format : OutputFormat
  /-- The greatest number of bytes of a source. -/
  sizeLimit? : Option Nat
  /-- The greatest number of functions that are shown of a file. -/
  top? : Option Nat
deriving BEq, DecidableEq, Repr

/-- What is asked of a suggestion. -/
structure SuggestOptions where
  file : String
  functionId : String
  configuration? : Option String
  format : OutputFormat
deriving BEq, DecidableEq, Repr

/-- What is asked of a new configuration. -/
structure InitOptions where
  output : String
  /-- Whether a file that is there is written over. -/
  isForced : Bool
deriving BEq, DecidableEq, Repr

/-- What the program can do. -/
inductive Task where
  /-- Ranks the functions of files. -/
  | analyze (options : AnalyzeOptions)
  /-- Asks for a better version of a function. -/
  | suggest (options : SuggestOptions)
  /-- Writes a configuration to start from. -/
  | init (options : InitOptions)
deriving BEq, DecidableEq, Repr

/-- A task with the verbosity. -/
structure CommandLine where
  verbosity : Nat
  task : Task
deriving BEq, DecidableEq, Repr

/-! ### What commands take -/

/-- The verbosity. -/
def verboseArgument : Argument := ⟨"verbose", some 'v', .count⟩

/-- Help. -/
def helpArgument : Argument := ⟨"help", some 'h', .help⟩

/-- The path of a configuration. -/
def configArgument : Argument := ⟨"config", some 'c', .value .path⟩

/-- The way in which results are written. -/
def formatArgument : Argument := ⟨"format", some 'f', .value (.choice ["pretty", "json"])⟩

/-- What may stand before a task. -/
def mainSignature : Signature where
  arguments := [verboseArgument, helpArgument, ⟨"version", some 'V', .version⟩]
  operand? := none
  required := []

/-- What an analysis takes. -/
def analyzeSignature : Signature where
  arguments := [configArgument, formatArgument, ⟨"max-bytes", none, .value .number⟩,
    ⟨"top", some 't', .value .number⟩, verboseArgument, helpArgument]
  operand? := some ⟨"paths", .path, true⟩
  required := ["paths"]

/-- What a suggestion takes. -/
def suggestSignature : Signature where
  arguments := [⟨"function", some 'F', .value .text⟩, configArgument, formatArgument,
    verboseArgument, helpArgument]
  operand? := some ⟨"file", .path, false⟩
  required := ["file", "function"]

/-- What a new configuration takes. -/
def initSignature : Signature where
  arguments := [⟨"output", some 'o', .value .path⟩, ⟨"force", none, .flag⟩, verboseArgument,
    helpArgument]
  operand? := none
  required := []

/-! ### Tasks -/

/-- The format that has been given. -/
def Arguments.format (a : Arguments) : OutputFormat :=
  if a.value? "format" == some "json" then .json else .pretty

/-- The number that has been given with a name. -/
def Arguments.number? (a : Arguments) (name : String) : Option Nat :=
  (a.value? name).bind readNumber?

/-- The environment variable that holds the path of a configuration, if none is given. -/
def configurationVariable : String := "ECOCODE_CONFIG"

/-- The path of a configuration that an environment gives. -/
def configurationFallback (path? : Option String) : List Waiting :=
  path?.toList.map fun path => ⟨"config", .path, false, [path]⟩

/-- A command: its names, what it takes, and the task that it stands for. -/
structure Subcommand where
  names : List String
  signature : Signature
  /-- Whether it needs a configuration. -/
  isConfigured : Bool
  task : Arguments → Task

/-- All commands. -/
def subcommands : List Subcommand := [
  { names := ["analyze", "scan"]
    signature := analyzeSignature
    isConfigured := true
    task := fun a => .analyze {
      paths := a.valuesOf "paths"
      configuration? := a.value? "config"
      format := a.format
      sizeLimit? := a.number? "max-bytes"
      top? := a.number? "top" } },
  { names := ["suggest"]
    signature := suggestSignature
    isConfigured := true
    task := fun a => .suggest {
      file := (a.value? "file").getD ""
      functionId := (a.value? "function").getD ""
      configuration? := a.value? "config"
      format := a.format } },
  { names := ["init"]
    signature := initSignature
    isConfigured := false
    task := fun a => .init {
      output := (a.value? "output").getD "ecocode.yaml"
      isForced := a.has "force" } }]

/-- The command with a name. -/
def subcommand? (name : String) : Option Subcommand := subcommands.find? (·.names.contains name)

/-- What is asked of the command that gives help. -/
def readHelp (names : List String) : UsageError :=
  match names with
  | [] => .helpAsked
  | name :: others =>
    if name == "help" || (subcommand? name).isSome then
      if others.isEmpty then .helpAsked else .unknownCommand
    else .unknownCommand

/-- Reads arguments up to the name of a command, and then those of the command. -/
def readCommand (path? : Option String) :
    ArgumentReading → List String → Except UsageError CommandLine
  | s, [] =>
    .error (if s.given.count == 0 then .noArguments else .missingCommand)
  | s, text :: texts =>
    if s.isTrailing then
      .error (if text == "help" || (subcommand? text).isSome then .unknownArgument
        else .unknownCommand)
    else match subcommand? text with
      | some c => do
        let fallback := if c.isConfigured then configurationFallback path? else []
        let given ← Arguments.read c.signature fallback texts
        let verbosity := if given.count == 0 then s.given.count else given.count
        return ⟨verbosity, c.task given⟩
      | none =>
        if text == "help" then .error (readHelp texts)
        else match s.readOne mainSignature text with
          | .ok s => readCommand path? s texts
          | .error .unknownArgument =>
            .error (if text.startsWith "-" && text != "-" then .unknownArgument
              else .unknownCommand)
          | .error e => .error e

/-- The command line that arguments stand for, where the environment may give the path of a
configuration. -/
def CommandLine.parse (path? : Option String) (arguments : List String) :
    Except UsageError CommandLine :=
  readCommand path? .start arguments

end EnergyAudit.Command
