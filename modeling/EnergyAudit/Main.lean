import EnergyAudit.Command.Run

/-!
# The command line

Reads the arguments, the environment and the files, and writes what a command says: pages to the
standard output, complaints and log lines to the standard error.  Requests have no transport here,
so that every provider is out of reach.

## Main definitions

* `deviceFiles` — access to the files of the device.
* `main` — the program.
-/

namespace EnergyAudit.Command

open EnergyAudit.Files EnergyAudit.Provider EnergyAudit.Terminal

/-- The fault with a number, which is named in words. -/
def faultOfCode (code : UInt32) (details : String) : FileFault :=
  match code with
  | 2 => .notFound
  | 17 => .alreadyThere
  | 20 => .notDirectory
  | 21 => .isDirectory
  | 36 => .nameTooLong
  | 40 => .tooManyLinks
  | _ => .other (details ++ " (os error " ++ toString code.toNat ++ ")")

/-- The fault that an error stands for. -/
def faultOfError : IO.Error → FileFault
  | .alreadyExists _ code details | .invalidArgument _ code details
  | .permissionDenied _ code details | .resourceExhausted _ code details
  | .inappropriateType _ code details | .noSuchThing _ code details
  | .interrupted _ code details | .noFileOrDirectory _ code details
  | .otherError code details | .resourceBusy code details | .resourceVanished code details
  | .unsupportedOperation code details | .hardwareFault code details
  | .unsatisfiedConstraints code details | .illegalOperation code details
  | .protocolError code details | .timeExpired code details => faultOfCode code details
  | .unexpectedEof => .other "unexpected end of file"
  | .userError message => .other message

/-- What an action gives, or the fault that it ends with. -/
def faultOr {α : Type} (action : IO α) : IO (Except FileFault α) := do
  try return .ok (← action) catch e => return .error (faultOfError e)

/-- Whether a path leads to a directory. -/
def leadsToDirectory (path : String) : IO Bool := do
  return (← (← IO.FS.realPath path).metadata).type == .dir

/-- The text of a file. -/
def textOfFile (path : String) : IO (Except FileFault String) := do
  match ← faultOr (IO.FS.readBinFile path) with
  | .error fault => return .error fault
  | .ok content =>
    match String.fromUTF8? content with
    | some text => return .ok text
    | none => return .error .notText

/-- What is found under a path.  The directories around it are given by their own places, each with
the path that led there.  Directories that are passed over are left empty. -/
partial def listUnder (around : List (String × String)) (path : String) (isEntered : Bool) :
    IO Listing := do
  try
    let place ← IO.FS.realPath path
    match (← place.metadata).type with
    | .file => return .file
    | .dir =>
      if let some ancestor := around.lookup place.toString then
        return .fault (.loop path ancestor)
      if !isEntered then return .directory []
      let around := (place.toString, path) :: around
      return .directory (← (← place.readDir).toList.mapM fun entry => do
        let name := entry.fileName
        return (name, ← listUnder around (joinPath path name) (!isPassedOver name)))
    | _ => return .other
  catch e => return .fault (.unreadable path (faultOfError e))

/-- Access to the files of the device. -/
def deviceFiles : FileAccess IO where
  isDirectory path := faultOr (leadsToDirectory path)
  isThere path := return (← faultOr (IO.FS.realPath path)).toBool
  readText := textOfFile
  listing path := listUnder [] path true
  writeText path text := faultOr (IO.FS.writeFile path text)
  makeDirectory path := faultOr (IO.FS.createDir path)

/-- A carrier that reaches nobody, at some time. -/
def idleCarrier : Carrier Nat where
  now time := time
  isGivenUp _ := false
  carry request :=
    return .unreachable ("error sending request for url (" ++ request.url.text ++ ")")

/-- Does what arguments ask for: the verbosity and what comes of it. -/
def runArguments (arguments : List String) : IO (Nat × Outcome) := do
  match CommandLine.parse (← IO.getEnv configurationVariable) arguments with
  | .error e => return (0, e.outcome)
  | .ok line =>
    let environment ← lookUpAll (fun name => (IO.getEnv name : IO _)) colorVariables
    let setting : Setting IO Nat := {
      files := deviceFiles
      lookUp := fun name => IO.getEnv name
      isColored := isColorWanted environment (← (← IO.getStdout).isTty)
      carrier := idleCarrier }
    return (line.verbosity, (← line.task.run setting (← IO.monoNanosNow)).1)

/-- Runs the program: what comes of the arguments is written, and the code is that of its end. -/
def runProgram (arguments : List String) : IO UInt32 := do
  let (verbosity, o) ← runArguments arguments
  let filter := LogFilter.ofEnvironment (← IO.getEnv "RUST_LOG") verbosity
  IO.print o.page
  IO.eprint (Text.ofLines (o.allComplaints filter LogLine.text))
  return UInt32.ofNat o.ending.exitCode

end EnergyAudit.Command

/-- The program. -/
def main (arguments : List String) : IO UInt32 := EnergyAudit.Command.runProgram arguments
