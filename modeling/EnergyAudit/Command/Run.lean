import EnergyAudit.Command.Init
import EnergyAudit.Command.Suggest

/-!
# The program

A command line that is understood is a task that is done.  Else the program says what it can do, or
what it does not understand.

## Main definitions

* `Setting` — what the program is run in.
* `Task.run` — does what is asked for.
* `UsageError.outcome` — what is done when there is no task.
-/

namespace EnergyAudit.Command

open EnergyAudit.Files EnergyAudit.Text

/-- What the program is run in. -/
structure Setting (m : Type → Type) (σ : Type) where
  files : FileAccess m
  /-- The value of an environment variable. -/
  lookUp : String → m (Option String)
  isColored : Bool
  carrier : Carrier σ

/-- Does what is asked for. -/
def Task.run {m : Type → Type} [Monad m] {σ : Type} (s : Setting m σ) (task : Task) (world : σ) :
    m (Outcome × σ) :=
  match task with
  | .analyze o => do return (← runAnalyze s.files s.lookUp s.isColored o, world)
  | .suggest o => runSuggest s.files s.carrier s.lookUp s.isColored o world
  | .init o => do return (← runInit s.files o, world)

/-! ### Without a task -/

/-- What the program can do. -/
def usageLines : List String := [
  "Usage: ecocode [-v...] <COMMAND>",
  "",
  "Commands:",
  "  analyze  Rank the functions of Python files by estimated cost [aliases: scan]",
  "  suggest  Ask the configured providers for a leaner version of one function",
  "  init     Write a starter ecocode.yaml",
  "  help     Print this message"]

namespace UsageError

/-- The error in words. -/
def message : UsageError → String
  | helpAsked | versionAsked | noArguments => ""
  | missingCommand => "a subcommand is required but one was not provided"
  | unknownCommand => "unrecognized subcommand"
  | missingArgument => "required arguments were not provided"
  | unknownArgument => "unexpected argument found"
  | invalidValue => "invalid or missing value for an argument"
  | unreadableValue => "invalid value for an argument"
  | unexpectedValue => "unexpected value for an argument"
  | repeatedArgument => "an argument cannot be used multiple times"

/-- What is done when there is no task. -/
def outcome : UsageError → Outcome
  | helpAsked => ⟨[.page (ofLines usageLines)], .success⟩
  | versionAsked => ⟨[.page ("ecocode " ++ programVersion ++ "\n")], .success⟩
  | noArguments => .complain usageLines .refused
  | error => .complain (("error: " ++ error.message) :: "" :: usageLines) .refused

end UsageError

end EnergyAudit.Command
