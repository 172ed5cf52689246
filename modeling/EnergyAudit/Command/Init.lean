import EnergyAudit.Command.Line
import EnergyAudit.Command.Outcome
import EnergyAudit.Configuration.Template

/-!
# The command that writes a configuration

The template is written to a file, in directories that are made if they are lacking.  A file that is
there is written over only if that is asked for.

## Main definitions

* `runInit` — the command.
-/

namespace EnergyAudit.Command

open EnergyAudit.Files EnergyAudit.Text

/-- What is written when there is a new configuration. -/
def createdPage (path : String) : String :=
  ofLines [
    "Created " ++ path,
    "",
    "Next steps:",
    "  1. Set the provider endpoints and API key variables in " ++ path,
    "  2. Run: ecocode analyze . --config " ++ path]

/-- Makes the directory of a file. -/
def makeParent {m : Type → Type} [Monad m] (fs : FileAccess m) (path : String) :
    m (Except FileFault Unit) :=
  match parentPath? path with
  | none => return .ok ()
  | some parent => if parent == "." then return .ok () else makeDirectories fs parent

/-- The command. -/
def runInit {m : Type → Type} [Monad m] (fs : FileAccess m) (o : InitOptions) : m Outcome := do
  if !o.isForced && (← fs.isThere o.output) then
    return .complain ["Error: file already exists: " ++ o.output,
      "Use --force to overwrite or --output to pick another path"] .refused
  match ← makeParent fs o.output with
  | .error fault =>
    return .complain ["Error: failed to create directory: " ++ fault.message] .refused
  | .ok () =>
    match ← fs.writeText o.output configurationTemplate with
    | .error fault =>
      return .complain ["Error: failed to write config: " ++ fault.message] .refused
    | .ok () => return ⟨[.page (createdPage o.output)], .success⟩

end EnergyAudit.Command
