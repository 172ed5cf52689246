import EnergyAudit.Command.Outcome
import EnergyAudit.Configuration.Check
import EnergyAudit.Configuration.Reading

/-!
# Finding the configuration

The configuration is the one that is asked for, else the first that is found in the working
directory or in the directory of the user, else the default one.  One that is read is checked.

## Main definitions

* `userConfigurationPath?` — where a user keeps a configuration.
* `loadConfiguration` — the configuration, or what is wrong with it.
-/

namespace EnergyAudit.Command

open EnergyAudit.Files EnergyAudit.Text

/-- The names of configurations in the working directory. -/
def configurationNames : List String := ["ecocode.yaml", ".ecocode.yaml"]

/-- The environment variables that say where a user keeps configurations. -/
def userVariables : List String := ["XDG_CONFIG_HOME", "HOME"]

/-- The directory in which a user keeps configurations. -/
def userDirectory? (environment : String → Option String) : Option String :=
  let given? := (environment "XDG_CONFIG_HOME").filter isAbsolute
  let home? := (environment "HOME").filter (!·.isEmpty)
  given?.or (home?.map fun home => joinPath home ".config")

/-- Where a user keeps a configuration. -/
def userConfigurationPath? (environment : String → Option String) : Option String :=
  (userDirectory? environment).map fun directory =>
    joinPath (joinPath directory "ecocode") "ecocode.yaml"

/-- An environment in which only some variables are known. -/
def lookUpAll {m : Type → Type} [Monad m] (lookUp : String → m (Option String))
    (names : List String) : m (String → Option String) := do
  let found ← names.mapM fun name => return (name, ← lookUp name)
  return fun name => (found.lookup name).join

/-- The first path that leads somewhere. -/
def firstThere? {m : Type → Type} [Monad m] (fs : FileAccess m) : List String → m (Option String)
  | [] => return none
  | path :: paths => do
    if ← fs.isThere path then return some path else firstThere? fs paths

/-- The configuration in a file. -/
def readConfigurationFile (path : String) (text : Except FileFault String) :
    Except String Configuration :=
  match text with
  | .error fault => .error ("failed to read config " ++ path ++ ": " ++ fault.message)
  | .ok text =>
    match Configuration.ofText text with
    | .error e => .error ("invalid config " ++ path ++ ": " ++ e.message)
    | .ok c =>
      match c.check with
      | .error fault => .error fault.message
      | .ok () => .ok c

/-- The topic of what is written on commands. -/
def topic : String := "ecocode::cli"

/-- What is written when a configuration has been found. -/
def loadedLine (path? : Option String) : LogLine :=
  match path? with
  | some path => ⟨.debug, topic, "loaded config", [bareField "path" path]⟩
  | none => ⟨.debug, topic, "no config file found, using defaults", []⟩

/-- The configuration with what is written on it, or the outcome of a command that has none. -/
def loadConfiguration {m : Type → Type} [Monad m] (fs : FileAccess m)
    (lookUp : String → m (Option String)) (explicit? : Option String) :
    m (Except Outcome (Configuration × List Output)) := do
  let path? ← match explicit? with
    | some path => pure (some path)
    | none =>
      let environment ← lookUpAll lookUp userVariables
      firstThere? fs (configurationNames ++ (userConfigurationPath? environment).toList)
  match path? with
  | none => return .ok (.default, [.log (loadedLine none)])
  | some path =>
    match readConfigurationFile path (← fs.readText path) with
    | .ok c => return .ok (c, [.log (loadedLine (some path))])
    | .error message => return .error (.complain ["Error: " ++ message] .refused)

end EnergyAudit.Command
