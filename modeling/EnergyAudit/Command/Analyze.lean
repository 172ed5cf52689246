import EnergyAudit.Command.Line
import EnergyAudit.Command.Settings
import EnergyAudit.Report.Data
import EnergyAudit.Report.Page

/-!
# The command that analyzes files

The files are those that are named and the Python files in the directories that are named.  Each is
analyzed on its own, and the results are written in the order of the paths.

## Main definitions

* `analyzeFile` — the session of a file.
* `fileAnalyses` — the analyses of files in the order of their paths.
* `gather` — the files that are to be analyzed.
* `runAnalyze` — the command.
-/

namespace EnergyAudit.Command

open EnergyAudit.Files EnergyAudit.Text

/-! ### One file -/

/-- What is written on the analysis of a source. -/
def analysisLines (u : SourceUnit) (sizeLimit : Nat) (result : Except AnalysisError Session) :
    List LogLine :=
  match result with
  | .ok s =>
    let fields := [quotedField "file" u.filename, bareField "functions" (toString s.records.length)]
    [⟨.debug, "ecocode::analysis", "extracted function records", fields⟩,
      ⟨.info, "ecocode::session", "analysis complete", fields⟩]
  | .error (.tooLarge size _) =>
    [⟨.debug, "ecocode::analysis", "rejecting oversized source",
      [bareField "size" (toString size), bareField "limit" (toString sizeLimit)]⟩]
  | .error _ => []

/-- The session of a file with some content, and what is written on its analysis. -/
def analyzeFile (settings : AnalysisSettings) (path : String) (content : Except FileFault String) :
    Except FileError Session × List LogLine :=
  match content with
  | .error fault => (.error (.unreadable path fault.message), [])
  | .ok text =>
    let u : SourceUnit := ⟨text, Language.python.name, path⟩
    let result := Session.submit u settings 0
    (result.mapError .analysis, analysisLines u settings.maxSourceBytes result)

/-- What is written on a file that cannot be read. -/
def unreadableLines (path : String) : Except FileFault String → List LogLine
  | .ok _ => []
  | .error fault =>
    [⟨.warn, topic, "cannot read file",
      [bareField "path" path, bareField "error" fault.message]⟩]

/-- The analysis of a file with some content. -/
def fileAnalysis (settings : AnalysisSettings) (path : String) (content : Except FileFault String) :
    FileAnalysis :=
  ⟨path, (analyzeFile settings path content).1.map Session.report⟩

/-- The analyses of files in the order of their paths. -/
def fileAnalyses (settings : AnalysisSettings)
    (files : List (String × Except FileFault String)) : List FileAnalysis :=
  (files.map fun (path, content) => fileAnalysis settings path content).mergeSort
    fun a b => !isPathBefore b.path a.path

/-- What is written in the course of the analyses. -/
def fileLines (settings : AnalysisSettings) (files : List (String × Except FileFault String)) :
    List Output :=
  files.flatMap fun (path, content) =>
    ((analyzeFile settings path content).2 ++ unreadableLines path content).map .log

/-! ### Many files -/

/-- The files that are to be analyzed: those that are named, and the Python files in directories.
Else the outcome of a command that cannot find them. -/
def gather {m : Type → Type} [Monad m] (fs : FileAccess m) :
    List String → m (Except Outcome (List String))
  | [] => return .ok []
  | path :: paths => do
    let found : Except Outcome (List String) ← match ← fs.isDirectory path with
      | .error fault =>
        pure (.error (.complain
          ["Error: cannot access path " ++ quotedPath path ++ ": " ++ fault.message] .refused))
      | .ok true =>
        let listing ← fs.listing path
        pure ((collect path listing).mapError fun fault => ⟨[], .failed fault.fullMessage⟩)
      | .ok false => pure (.ok [path])
    match found with
    | .error outcome => return .error outcome
    | .ok files => return (← gather fs paths).map (files ++ ·)

/-- Reads files one after another. -/
def readAll {m : Type → Type} [Monad m] (fs : FileAccess m) (paths : List String) :
    m (List (String × Except FileFault String)) :=
  paths.mapM fun path => return (path, ← fs.readText path)

/-- The results as they are written. -/
def analysisText (format : OutputFormat) (isColored : Bool) (top? : Option Nat)
    (results : List FileAnalysis) : String :=
  match format with
  | .json => (analysisDocument results).pretty ++ "\n"
  | .pretty => analysisPage isColored top? results

/-- What comes of the analyses of some files. -/
def analysisOutcome (o : AnalyzeOptions) (isColored : Bool) (settings : AnalysisSettings)
    (files : List (String × Except FileFault String)) : Outcome :=
  let results := fileAnalyses settings files
  ⟨fileLines settings files ++ [.page (analysisText o.format isColored o.top? results)],
    if results.any FileAnalysis.isFailed then .unsuccessful else .success⟩

/-- The command. -/
def runAnalyze {m : Type → Type} [Monad m] (fs : FileAccess m)
    (lookUp : String → m (Option String)) (isColored : Bool) (o : AnalyzeOptions) :
    m Outcome := do
  match ← loadConfiguration fs lookUp o.configuration? with
  | .error outcome => return outcome
  | .ok (c, outputs) =>
    if o.sizeLimit? == some 0 then
      return (Outcome.complain ["Error: --max-bytes must be greater than 0"] .refused).after outputs
    let settings := { c.analysis with
      maxSourceBytes := o.sizeLimit?.getD c.analysis.maxSourceBytes }
    match ← gather fs o.paths with
    | .error outcome => return outcome.after outputs
    | .ok [] =>
      return (Outcome.complain ["Warning: no Python files to analyze"] .success).after outputs
    | .ok paths =>
      return (analysisOutcome o isColored settings (← readAll fs paths)).after outputs

end EnergyAudit.Command
