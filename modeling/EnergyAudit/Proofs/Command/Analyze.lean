import EnergyAudit.Command.Analyze
import EnergyAudit.Proofs.Files.PathOrder
import Mathlib.Data.List.Perm.Basic

/-!
# Runs of the command that analyzes files

The command collects the files that its arguments stand for, analyzes each of them on its own, and
writes the results in the order of the paths.  The files may be analyzed side by side: what comes of
a file is kept in the place of the file, whenever it is finished.  So neither the order in which the
files are finished nor that of the arguments makes a difference to what is written and how the
command ends.

## Main definitions

* `FileAccess.IsStill`, `FileAccess.filesUnder` — files that do not change, and those that some
  paths stand for.
* `Workbench`, `analyzeFiles` — files that are analyzed side by side.
* `runAnalyzeBy`, `runAnalyzeInOrder` — the command with some way to work on the files, and with the
  files side by side.
* `Outcome.Shows` — the results of a run show in what comes of it.

## Main results

* `FileTree.isStill_access` — a tree does not change when it is asked.
* `gather_eq` — what the command finds.
* `places_analyzeFiles`, `results_analyzeFiles` — what is in the places when files are finished.
* `shows_runAnalyzeBy` — what the command shows depends on the results only.
* `Outcome.Shows.eq_of_perm` — the order of the arguments does not show.
* `runAnalyze_independent_of_order` — all runs of the command show the same.
-/

namespace EnergyAudit

open EnergyAudit.Files

variable {σ : Type}

/-! ### Files that do not change -/

namespace Files.FileAccess

variable (fs : FileAccess (StateM σ)) (t : σ)

/-- What is asked of the files changes nothing. -/
structure IsStill : Prop where
  isDirectory : ∀ path, ((fs.isDirectory path).run t).2 = t
  readText : ∀ path, ((fs.readText path).run t).2 = t
  listing : ∀ path, ((fs.listing path).run t).2 = t

/-- The text of a file. -/
def textAt (path : String) : Except FileFault String := ((fs.readText path).run t).1

/-- The files that a path stands for: the one that it leads to, or those in a directory.  There are
none if it leads nowhere or the directory cannot be walked. -/
def filesAt? (path : String) : Option (List String) :=
  match ((fs.isDirectory path).run t).1 with
  | .error _ => none
  | .ok true => (collect path ((fs.listing path).run t).1).toOption
  | .ok false => some [path]

/-- The files that some paths stand for. -/
def filesUnder (paths : List String) : List String :=
  paths.flatMap fun path => (fs.filesAt? t path).getD []

end Files.FileAccess

/-- A tree does not change when it is asked. -/
theorem Files.FileTree.isStill_access (t : FileTree) : FileTree.access.IsStill t :=
  ⟨fun _ => rfl, fun _ => rfl, fun _ => rfl⟩

namespace Command

/-- What comes of an action that is followed by another one. -/
theorem run_bind {α β : Type} (x : StateM σ α) (f : α → StateM σ β) (s : σ) :
    (x >>= f).run s = (f (x.run s).1).run (x.run s).2 :=
  rfl

theorem run_bind_eq {α β : Type} {x : StateM σ α} {f : α → StateM σ β} {a : α} {s t : σ}
    (h : x.run s = (a, t)) : (x >>= f).run s = (f a).run t := by
  rw [run_bind, h]

/-- What comes of an action after one that changes nothing. -/
theorem run_bind_of_still {α β : Type} {x : StateM σ α} {f : α → StateM σ β} {t : σ}
    (h : (x.run t).2 = t) : (x >>= f).run t = (f (x.run t).1).run t := by
  rw [run_bind, h]

section

variable {fs : FileAccess (StateM σ)} {t : σ}

/-- The command finds the files that its arguments stand for, one argument after the other. -/
theorem gather_eq (hstill : fs.IsStill t) {paths : List String} :
    (∀ path ∈ paths, (fs.filesAt? t path).isSome = true) →
      (gather fs paths).run t = (.ok (fs.filesUnder t paths), t) := by
  induction paths with
  | nil => intro _; rfl
  | cons path paths ih =>
    intro h
    have hrest := ih fun other hother => h other (List.mem_cons_of_mem _ hother)
    obtain ⟨files, hfiles⟩ := Option.isSome_iff_exists.mp (h path List.mem_cons_self)
    have hunder : fs.filesUnder t (path :: paths) = files ++ fs.filesUnder t paths := by
      simp [FileAccess.filesUnder, hfiles]
    rw [gather, run_bind_of_still (hstill.isDirectory path), hunder]
    unfold FileAccess.filesAt? at hfiles
    cases hleads : ((fs.isDirectory path).run t).1 with
    | error fault =>
      rw [hleads] at hfiles
      cases hfiles
    | ok leads =>
      rw [hleads] at hfiles
      cases leads with
      | false =>
        cases hfiles
        dsimp only
        rw [pure_bind, run_bind_eq hrest]
        rfl
      | true =>
        -- A directory is walked; the walk has to succeed.
        dsimp only at hfiles ⊢
        rw [run_bind_of_still (hstill.listing path), pure_bind]
        cases hcollect : collect path ((fs.listing path).run t).1 with
        | error fault =>
          rw [hcollect] at hfiles
          cases hfiles
        | ok found =>
          rw [hcollect] at hfiles
          cases hfiles
          dsimp only [Except.mapError]
          rw [run_bind_eq hrest]
          rfl

theorem readAll_eq (hstill : fs.IsStill t) (paths : List String) :
    (readAll fs paths).run t = (paths.map fun path => (path, fs.textAt t path), t) := by
  unfold readAll
  induction paths with
  | nil => rfl
  | cons path paths ih =>
    rw [List.mapM_cons, bind_assoc, run_bind_of_still (hstill.readText path), pure_bind,
      run_bind_eq ih]
    rfl

end

/-! ### The analyses of files -/

section

variable {settings : AnalysisSettings} {text : String → Except FileFault String}
  {paths paths' : List String}

/-- The analyses of files with some texts are sorted by their paths. -/
theorem fileAnalyses_eq : fileAnalyses settings (paths.map fun path => (path, text path)) =
    sortByPath (·.path) (paths.map fun path => fileAnalysis settings path (text path)) := by
  rw [fileAnalyses, List.map_map]
  rfl

/-- The paths of analyses are those of the files. -/
theorem map_pathParts_fileAnalysis :
    ((paths.map fun path => fileAnalysis settings path (text path)).map fun f =>
      pathParts f.path) = paths.map pathParts := by
  rw [List.map_map]
  rfl

/-- In which order different files are found makes no difference to their analyses. -/
theorem fileAnalyses_eq_of_perm (hperm : paths'.Perm paths)
    (hdistinct : (paths.map pathParts).Nodup) :
    fileAnalyses settings (paths'.map fun path => (path, text path)) =
      fileAnalyses settings (paths.map fun path => (path, text path)) := by
  rw [fileAnalyses_eq, fileAnalyses_eq]
  refine sortByPath_eq_of_perm (hperm.map _) ?_
  rw [map_pathParts_fileAnalysis]
  exact (hperm.map pathParts).nodup_iff.mpr hdistinct

end

/-! ### Files side by side -/

/-- The work on some files: what has come of those that are finished, each in its place, and the
lines that have been written. -/
structure Workbench where
  places : List (Option FileAnalysis)
  lines : List LogLine

/-- The lines that are written on a file with some content. -/
def linesOn (settings : AnalysisSettings) (path : String) (content : Except FileFault String) :
    List LogLine :=
  (analyzeFile settings path content).2 ++ unreadableLines path content

namespace Workbench

/-- The work on so many files before any is finished. -/
def start (count : Nat) : Workbench := ⟨List.replicate count none, []⟩

/-- The work when the file in a place is finished. -/
def finish (b : Workbench) (settings : AnalysisSettings) (place : Nat) (path : String)
    (content : Except FileFault String) : Workbench where
  places := b.places.set place (some (fileAnalysis settings path content))
  lines := b.lines ++ linesOn settings path content

/-- What has come of all files, in the order of their paths. -/
def results (b : Workbench) : List FileAnalysis := sortByPath (·.path) (b.places.filterMap id)

/-- What comes of the work. -/
def outcome (b : Workbench) (o : AnalyzeOptions) (isColored : Bool) : Outcome :=
  ⟨b.lines.map .log ++ [.page (analysisText o.format isColored o.top? b.results)],
    if b.results.any FileAnalysis.isFailed then .unsuccessful else .success⟩

end Workbench

/-- Files are analyzed side by side, and those in some places are finished one after another. -/
def analyzeFiles {m : Type → Type} [Monad m] (fs : FileAccess m) (settings : AnalysisSettings)
    (paths : List String) : List Nat → Workbench → m Workbench
  | [], b => return b
  | place :: order, b =>
    match paths[place]? with
    | none => analyzeFiles fs settings paths order b
    | some path => do
      let content ← fs.readText path
      analyzeFiles fs settings paths order (b.finish settings place path content)

section

variable {fs : FileAccess (StateM σ)} {t : σ} {settings : AnalysisSettings}
  {text : String → Except FileFault String} {paths : List String}

/-- What is in the places of files with some texts when those in some places are finished. -/
def placesAfter (settings : AnalysisSettings) (text : String → Except FileFault String)
    (paths : List String) (finished : List Nat) : List (Option FileAnalysis) :=
  paths.mapIdx fun place path =>
    if place ∈ finished then some (fileAnalysis settings path (text path)) else none

theorem placesAfter_nil :
    placesAfter settings text paths [] = (Workbench.start paths.length).places := by
  simp [placesAfter, Workbench.start, List.mapIdx_eq_zipIdx_map]

/-- When one more file is finished, its place is filled and the others stay as they are. -/
theorem set_placesAfter {place : Nat} {path : String} (hpath : paths[place]? = some path)
    (finished : List Nat) :
    (placesAfter settings text paths finished).set place
        (some (fileAnalysis settings path (text path))) =
      placesAfter settings text paths (place :: finished) := by
  refine List.ext_getElem? fun other => ?_
  rw [List.getElem?_set, placesAfter, placesAfter, List.getElem?_mapIdx, List.getElem?_mapIdx]
  by_cases hother : place = other
  · subst hother
    obtain ⟨hplace, rfl⟩ := List.getElem?_eq_some_iff.mp hpath
    simp [hplace]
  · rw [if_neg hother]
    simp [Ne.symm hother]

/-- When the files in all places are finished, each has its analysis in its place. -/
theorem placesAfter_of_forall_mem {finished : List Nat}
    (h : ∀ place < paths.length, place ∈ finished) :
    placesAfter settings text paths finished =
      (paths.map fun path => fileAnalysis settings path (text path)).map some := by
  refine List.ext_getElem? fun place => ?_
  rw [placesAfter, List.getElem?_mapIdx, List.map_map, List.getElem?_map]
  cases hpath : paths[place]? with
  | none => rfl
  | some path => simp [h place (List.getElem?_eq_some_iff.mp hpath).1]

/-- What is in the places when the files in some more places are finished. -/
theorem places_analyzeFiles (hstill : fs.IsStill t) (settings : AnalysisSettings)
    {order : List Nat} :
    ∀ {b : Workbench} {finished : List Nat}, (∀ place ∈ order, place < paths.length) →
      b.places = placesAfter settings (fs.textAt t) paths finished →
      ∃ b', (analyzeFiles fs settings paths order b).run t = (b', t) ∧
        b'.places = placesAfter settings (fs.textAt t) paths (order.reverse ++ finished) := by
  induction order with
  | nil => intro b finished _ hb; exact ⟨b, rfl, hb⟩
  | cons place order ih =>
    intro b finished horder hb
    obtain ⟨path, hpath⟩ : ∃ path, paths[place]? = some path :=
      ⟨_, List.getElem?_eq_getElem (horder place List.mem_cons_self)⟩
    have hfinish : (b.finish settings place path (fs.textAt t path)).places =
        placesAfter settings (fs.textAt t) paths (place :: finished) := by
      rw [Workbench.finish, hb, set_placesAfter hpath]
    obtain ⟨b', hrun, hplaces⟩ :=
      ih (fun other hother => horder other (List.mem_cons_of_mem _ hother)) hfinish
    refine ⟨b', ?_, ?_⟩
    · rw [analyzeFiles, hpath]
      exact (run_bind_of_still (hstill.readText path)).trans hrun
    · rw [hplaces, List.reverse_cons, List.append_assoc, List.singleton_append]

/-- In whatever order files are finished, their analyses come in the order of their paths. -/
theorem results_analyzeFiles (hstill : fs.IsStill t) (settings : AnalysisSettings)
    {order : List Nat} (horder : order.Perm (List.range paths.length)) :
    ∃ b, (analyzeFiles fs settings paths order (.start paths.length)).run t = (b, t) ∧
      b.results = fileAnalyses settings (paths.map fun path => (path, fs.textAt t path)) := by
  have hmem : ∀ place, place ∈ order ↔ place < paths.length := by
    intro place
    rw [horder.mem_iff, List.mem_range]
  have hstart : (Workbench.start paths.length).places =
      placesAfter settings (fs.textAt t) paths [] := placesAfter_nil.symm
  obtain ⟨b, hrun, hplaces⟩ :=
    places_analyzeFiles hstill settings (fun place => (hmem place).mp) hstart
  have hall : ∀ place < paths.length, place ∈ order.reverse ++ [] := by
    intro place hplace
    rw [List.append_nil, List.mem_reverse]
    exact (hmem place).mpr hplace
  refine ⟨b, hrun, ?_⟩
  rw [Workbench.results, hplaces, placesAfter_of_forall_mem hall, List.filterMap_map,
    fileAnalyses_eq]
  exact congrArg _ (List.filterMap_some ..)

end

/-! ### The whole command -/

/-- What is analyzed with a configuration. -/
def AnalyzeOptions.settings (o : AnalyzeOptions) (c : Configuration) : AnalysisSettings :=
  { c.analysis with maxSourceBytes := o.sizeLimit?.getD c.analysis.maxSourceBytes }

/-- The command, with some way to work on the files that are found. -/
def runAnalyzeBy {m : Type → Type} [Monad m] (fs : FileAccess m)
    (lookUp : String → m (Option String)) (o : AnalyzeOptions)
    (work : AnalysisSettings → List String → m Outcome) : m Outcome := do
  match ← loadConfiguration fs lookUp o.configuration? with
  | .error outcome => return outcome
  | .ok (c, outputs) =>
    if o.sizeLimit? == some 0 then
      return (Outcome.complain ["Error: --max-bytes must be greater than 0"] .refused).after outputs
    match ← gather fs o.paths with
    | .error outcome => return outcome.after outputs
    | .ok [] =>
      return (Outcome.complain ["Warning: no Python files to analyze"] .success).after outputs
    | .ok paths => return (← work (o.settings c) paths).after outputs

/-- The command reads all files, and then it analyzes them. -/
theorem runAnalyze_eq (fs : FileAccess (StateM σ)) (lookUp : String → StateM σ (Option String))
    (isColored : Bool) (o : AnalyzeOptions) :
    runAnalyze fs lookUp isColored o = runAnalyzeBy fs lookUp o fun settings paths => do
      return analysisOutcome o isColored settings (← readAll fs paths) := by
  rfl

/-- The command with the files side by side, finished in some order. -/
def runAnalyzeInOrder {m : Type → Type} [Monad m] (fs : FileAccess m)
    (lookUp : String → m (Option String)) (isColored : Bool) (o : AnalyzeOptions)
    (order : List Nat) : m Outcome :=
  runAnalyzeBy fs lookUp o fun settings paths => do
    return (← analyzeFiles fs settings paths order (.start paths.length)).outcome o isColored

/-! ### What is shown -/

/-- Lines of the log are no pages. -/
theorem page_logs_append (lines : List LogLine) (outputs : List Output) (ending : Ending) :
    (⟨lines.map .log ++ outputs, ending⟩ : Outcome).page = (⟨outputs, ending⟩ : Outcome).page := by
  induction lines with
  | nil => rfl
  | cons line lines ih => simpa [Outcome.page] using ih

/-- With a configuration come only lines of the log. -/
theorem exists_logs_of_loadConfiguration {fs : FileAccess (StateM σ)}
    {lookUp : String → StateM σ (Option String)} {explicit? : Option String} {s t : σ}
    {c : Configuration} {outputs : List Output}
    (h : (loadConfiguration fs lookUp explicit?).run s = (.ok (c, outputs), t)) :
    ∃ lines : List LogLine, outputs = lines.map .log := by
  unfold loadConfiguration at h
  -- The file is the one that is asked for or one that is found, if any; then it is read.
  cases explicit? with
  | none =>
    simp only [run_bind] at h
    split at h
    · cases h
      exact ⟨[loadedLine none], rfl⟩
    · rw [run_bind] at h
      split at h
      · cases h
        exact ⟨[loadedLine (some _)], rfl⟩
      · cases h
  | some path =>
    simp only [pure_bind, run_bind] at h
    split at h
    · cases h
      exact ⟨[loadedLine (some path)], rfl⟩
    · cases h

/-- The end of a command with some results. -/
def resultsEnding (results : List FileAnalysis) : Ending :=
  if results.any FileAnalysis.isFailed then .unsuccessful else .success

/-- The analyses of the files that some paths stand for. -/
def analysesUnder (fs : FileAccess (StateM σ)) (t : σ) (settings : AnalysisSettings)
    (paths : List String) : List FileAnalysis :=
  fileAnalyses settings ((fs.filesUnder t paths).map fun path => (path, fs.textAt t path))

/-- An outcome shows the analyses of the files that the arguments stand for, if there are any. -/
structure Outcome.Shows (outcome : Outcome) (fs : FileAccess (StateM σ)) (t : σ) (isColored : Bool)
    (c : Configuration) (o : AnalyzeOptions) : Prop where
  page : outcome.page =
    if fs.filesUnder t o.paths = [] then ""
    else analysisText o.format isColored o.top? (analysesUnder fs t (o.settings c) o.paths)
  ending : outcome.ending = resultsEnding (analysesUnder fs t (o.settings c) o.paths)

/-- The arguments show only through the files that they stand for, and the order of these does not
show. -/
theorem Outcome.Shows.eq_of_perm {outcome other : Outcome} {fs : FileAccess (StateM σ)} {t : σ}
    {isColored : Bool} {c : Configuration} {o : AnalyzeOptions} {paths : List String}
    (h : outcome.Shows fs t isColored c o) (h' : other.Shows fs t isColored c { o with paths })
    (hperm : paths.Perm o.paths)
    (hdistinct : ((fs.filesUnder t o.paths).map pathParts).Nodup) :
    other.page = outcome.page ∧ other.ending = outcome.ending := by
  have hfiles : (fs.filesUnder t paths).Perm (fs.filesUnder t o.paths) := hperm.flatMap_right _
  have hresults : analysesUnder fs t (o.settings c) paths =
      analysesUnder fs t (o.settings c) o.paths := fileAnalyses_eq_of_perm hfiles hdistinct
  have hnone : fs.filesUnder t paths = [] ↔ fs.filesUnder t o.paths = [] := by
    rw [← List.length_eq_zero_iff, hfiles.length_eq, List.length_eq_zero_iff]
  constructor
  · have hpage : other.page = if fs.filesUnder t paths = [] then ""
        else analysisText o.format isColored o.top? (analysesUnder fs t (o.settings c) paths) :=
      h'.page
    rw [hpage, h.page, hresults]
    simp only [hnone]
  · exact h'.ending.trans ((congrArg resultsEnding hresults).trans h.ending.symm)

section

variable {fs : FileAccess (StateM σ)} {lookUp : String → StateM σ (Option String)}
  {o : AnalyzeOptions} {s t : σ} {c : Configuration} {outputs : List Output}
  (hload : (loadConfiguration fs lookUp o.configuration?).run s = (.ok (c, outputs), t))
  (hlimit : o.sizeLimit? ≠ some 0) (hstill : fs.IsStill t)
  (hfound : ∀ path ∈ o.paths, (fs.filesAt? t path).isSome = true)
include hload hlimit hstill hfound

/-- What the command does when it has a configuration and finds all that it is asked for. -/
theorem run_runAnalyzeBy (work : AnalysisSettings → List String → StateM σ Outcome) :
    ((runAnalyzeBy fs lookUp o work).run s).1 =
      (if fs.filesUnder t o.paths = [] then
        .complain ["Warning: no Python files to analyze"] .success
      else ((work (o.settings c) (fs.filesUnder t o.paths)).run t).1).after outputs := by
  have hgather := gather_eq hstill hfound
  have hlimit' : (o.sizeLimit? == some 0) = false := by simpa using hlimit
  rw [runAnalyzeBy, run_bind_eq hload]
  simp only [hlimit', Bool.false_eq_true, if_false]
  rw [run_bind_eq hgather]
  cases fs.filesUnder t o.paths with
  | nil => rfl
  | cons file files => rfl

/-- What the command shows depends on the results only. -/
theorem shows_runAnalyzeBy {isColored : Bool}
    {work : AnalysisSettings → List String → StateM σ Outcome}
    (hwork : ∃ lines : List LogLine, ((work (o.settings c) (fs.filesUnder t o.paths)).run t).1 =
      ⟨lines.map .log ++ [.page (analysisText o.format isColored o.top?
        (analysesUnder fs t (o.settings c) o.paths))],
        resultsEnding (analysesUnder fs t (o.settings c) o.paths)⟩) :
    ((runAnalyzeBy fs lookUp o work).run s).1.Shows fs t isColored c o := by
  obtain ⟨logs, rfl⟩ := exists_logs_of_loadConfiguration hload
  obtain ⟨lines, hwork⟩ := hwork
  have houtcome := run_runAnalyzeBy hload hlimit hstill hfound work
  by_cases hfiles : fs.filesUnder t o.paths = []
  · rw [if_pos hfiles, Outcome.after] at houtcome
    have hnone : analysesUnder fs t (o.settings c) o.paths = [] := by
      simp [analysesUnder, fileAnalyses, hfiles]
    refine ⟨?_, ?_⟩
    · rw [houtcome, page_logs_append, if_pos hfiles]
      rfl
    · rw [houtcome, hnone]
      rfl
  · rw [if_neg hfiles, hwork, Outcome.after] at houtcome
    refine ⟨?_, ?_⟩
    · rw [houtcome, page_logs_append, page_logs_append, if_neg hfiles]
      simp [Outcome.page]
    · rw [houtcome]

/-- What the command shows when it reads all files and then analyzes them. -/
theorem shows_runAnalyze (isColored : Bool) :
    ((runAnalyze fs lookUp isColored o).run s).1.Shows fs t isColored c o := by
  rw [runAnalyze_eq]
  refine shows_runAnalyzeBy hload hlimit hstill hfound ⟨(fs.filesUnder t o.paths).flatMap
    fun path => linesOn (o.settings c) path (fs.textAt t path), ?_⟩
  rw [run_bind_eq (readAll_eq hstill _), List.map_flatMap]
  show analysisOutcome o isColored (o.settings c) _ = _
  rw [analysisOutcome, fileLines, List.flatMap_map]
  rfl

/-- What the command shows when it analyzes the files side by side. -/
theorem shows_runAnalyzeInOrder (isColored : Bool) {order : List Nat}
    (horder : order.Perm (List.range (fs.filesUnder t o.paths).length)) :
    ((runAnalyzeInOrder fs lookUp isColored o order).run s).1.Shows fs t isColored c o := by
  obtain ⟨b, hrun, hresults⟩ := results_analyzeFiles hstill (o.settings c) horder
  refine shows_runAnalyzeBy hload hlimit hstill hfound ⟨b.lines, ?_⟩
  rw [run_bind_eq hrun]
  show b.outcome o isColored = _
  rw [Workbench.outcome, hresults]
  rfl

end

end Command

/-! ### The results as data -/

/-- The data on a file have either a report or an error. -/
theorem FileAnalysis.members_json (f : FileAnalysis) :
    (f.json.member? "report").isSome = !f.isFailed ∧
      (f.json.member? "error").isSome = f.isFailed := by
  unfold FileAnalysis.json isFailed
  cases f.outcome with
  | ok report => simp [Json.member?]
  | error error => simp [Json.member?]

/-- The entry of a file has an error if the file has no report. -/
theorem countP_json (results : List FileAnalysis) :
    (results.map FileAnalysis.json).countP (fun entry => (entry.member? "error").isSome) =
      results.countP FileAnalysis.isFailed := by
  rw [List.countP_map]
  exact List.countP_congr fun f _ => by simp [f.members_json.2]

namespace Command

theorem exitCode_resultsEnding (results : List FileAnalysis) :
    (resultsEnding results).exitCode =
      if 0 < results.countP FileAnalysis.isFailed then 1 else 0 := by
  unfold resultsEnding
  by_cases h : results.any FileAnalysis.isFailed = true
  · rw [if_pos h, if_pos (List.countP_pos_iff.mpr (List.any_eq_true.mp h))]
    rfl
  · have hnone : ¬ 0 < results.countP FileAnalysis.isFailed :=
      fun hpos => h (List.any_eq_true.mpr (List.countP_pos_iff.mp hpos))
    rw [if_neg h, if_neg hnone]
    rfl

/-- **All runs of the command show the same.**  The arguments lead somewhere, the directories among
them can be walked, and the files that they stand for are different paths.  Then there is one result
for each file, and the results are in strict order of the paths.  As data each has either a report
or an error; the counts are those of the entries and of the entries with errors, and the command
ends with code 1 if there are any and else with code 0.  The data are written as they are if they
are asked for.  With the arguments in another order, and with the files analyzed side by side and
finished in any order, the results are the same, and so are what is written and the end. -/
theorem runAnalyze_independent_of_order (fs : FileAccess (StateM σ))
    (lookUp : String → StateM σ (Option String)) (isColored : Bool) (o : AnalyzeOptions) {s t : σ}
    {c : Configuration} {outputs : List Output}
    (hload : (loadConfiguration fs lookUp o.configuration?).run s = (.ok (c, outputs), t))
    (hlimit : o.sizeLimit? ≠ some 0) (hstill : fs.IsStill t)
    (hfound : ∀ path ∈ o.paths, (fs.filesAt? t path).isSome = true)
    (hdistinct : ((fs.filesUnder t o.paths).map pathParts).Nodup) :
    let files := fs.filesUnder t o.paths
    let settings := o.settings c
    let results := fileAnalyses settings (files.map fun path => (path, fs.textAt t path))
    let document := analysisDocument results
    let entries := results.map FileAnalysis.json
    let failures := entries.countP fun entry => (entry.member? "error").isSome
    let outcome := ((runAnalyze fs lookUp isColored o).run s).1
    results.Perm (files.map fun path => fileAnalysis settings path (fs.textAt t path)) ∧
      results.Pairwise (fun a b => isPathBefore a.path b.path = true) ∧
      document.member? "files" = some (.array entries) ∧
      (∀ entry ∈ entries, (entry.member? "report").isSome = !(entry.member? "error").isSome) ∧
      document.member? "files_analyzed" = some (.nat entries.length) ∧
      document.member? "files_failed" = some (.nat failures) ∧
      outcome.ending.exitCode = (if 0 < failures then 1 else 0) ∧
      outcome.page =
        (if files = [] then "" else analysisText o.format isColored o.top? results) ∧
      (files ≠ [] → o.format = .json → outcome.page = document.pretty ++ "\n") ∧
      ∀ paths, paths.Perm o.paths →
        let other := ((runAnalyze fs lookUp isColored { o with paths }).run s).1
        (other.page = outcome.page ∧ other.ending = outcome.ending) ∧
        ∀ order, order.Perm (List.range files.length) →
          let bench := ((analyzeFiles fs settings (fs.filesUnder t paths) order
            (.start files.length)).run t).1
          let other := ((runAnalyzeInOrder fs lookUp isColored { o with paths } order).run s).1
          bench.results = results ∧ other.page = outcome.page ∧ other.ending = outcome.ending := by
  intro files settings results document entries failures outcome
  have hfailures : failures = results.countP FileAnalysis.isFailed := countP_json results
  have hshows : outcome.Shows fs t isColored c o :=
    shows_runAnalyze hload hlimit hstill hfound isColored
  have hsorted : results = sortByPath (·.path) _ := fileAnalyses_eq
  refine ⟨?_, ?_, ?_, ?_, ?_, ?_, ?_, hshows.page, ?_, ?_⟩
  · rw [hsorted]
    exact sortByPath_perm _ _
  · rw [hsorted]
    refine pairwise_sortByPath ?_
    rwa [map_pathParts_fileAnalysis]
  · simp [document, analysisDocument, Json.member?, entries]
  · intro entry hentry
    obtain ⟨f, -, rfl⟩ := List.mem_map.mp hentry
    rw [f.members_json.1, f.members_json.2]
  · simp [document, analysisDocument, Json.member?, entries]
  · simp [document, analysisDocument, Json.member?, hfailures]
  · rw [hshows.ending, exitCode_resultsEnding, hfailures]
    rfl
  · intro hfiles hformat
    rw [hshows.page, if_neg hfiles, hformat]
    rfl
  · intro paths hperm other
    have hfound' : ∀ path ∈ paths, (fs.filesAt? t path).isSome = true :=
      fun path hpath => hfound path (hperm.subset hpath)
    have hother : other.Shows fs t isColored c { o with paths } :=
      shows_runAnalyze (o := { o with paths }) hload hlimit hstill hfound' isColored
    refine ⟨hshows.eq_of_perm hother hperm hdistinct, ?_⟩
    intro order horder bench other
    have hfiles : (fs.filesUnder t paths).Perm files := hperm.flatMap_right _
    rw [← hfiles.length_eq] at horder
    have hother : other.Shows fs t isColored c { o with paths } :=
      shows_runAnalyzeInOrder (o := { o with paths }) hload hlimit hstill hfound' isColored horder
    obtain ⟨b, hrun, hresults⟩ := results_analyzeFiles hstill settings horder
    have hbench : bench = b := by
      rw [hfiles.length_eq] at hrun
      exact congrArg Prod.fst hrun
    refine ⟨?_, hshows.eq_of_perm hother hperm hdistinct⟩
    rw [hbench, hresults]
    exact fileAnalyses_eq_of_perm hfiles hdistinct

/-- A Python file, and a directory with another one that is no text. -/
def twoSources : FileAccess (StateM Unit) where
  isDirectory path := return .ok (path == "src")
  isThere _ := return false
  readText path := return if path == "b.py" then .ok "def f(): pass" else .error .notText
  listing _ := return .directory [("a.py", .file)]
  writeText _ _ := return .error .notFound
  makeDirectory _ := return .error .notFound

theorem pathParts_a : pathParts "src/a.py" = [.name "src", .name "a.py"] := by
  have hpieces : pieces "src/a.py" = ["src", "a.py"] := by
    simp +decide [pieces, String.splitOn, String.splitOnAux]
  have hrelative : isAbsolute "src/a.py" = false := by decide +kernel
  simp [pathParts, hpieces, hrelative, partOf]

theorem pathParts_b : pathParts "b.py" = [.name "b.py"] := by
  have hpieces : pieces "b.py" = ["b.py"] := by
    simp +decide [pieces, String.splitOn, String.splitOnAux]
  have hrelative : isAbsolute "b.py" = false := by decide +kernel
  simp [pathParts, hpieces, hrelative, partOf]

theorem filesAt?_twoSources :
    twoSources.filesAt? () "src" = some ["src/a.py"] ∧
      twoSources.filesAt? () "b.py" = some ["b.py"] := by
  have hjoined : joinPath "src" "a.py" = "src/a.py" := by decide +kernel
  have hpython : isPythonFile "src/a.py" = true := by
    rw [isPythonFile, extension?, pathParts_a]
    decide +kernel
  have hcollect : collect "src" (.directory [("a.py", .file)]) = .ok ["src/a.py"] := by
    simp [collect, collectEntries, inOrder, Listing.isDirectory, hjoined, hpython, joinAll]
    rfl
  refine ⟨?_, rfl⟩
  show (collect "src" (.directory [("a.py", .file)])).toOption = _
  rw [hcollect]
  rfl

/-- Two files are shown in one way with their arguments in both orders, also if the second one is
finished first. -/
theorem runAnalyze_independent_of_order_twoSources :
    let run := fun paths => ((runAnalyze twoSources (fun _ => return none) false
      ⟨paths, none, .json, none, none⟩).run ()).1
    let other := ((runAnalyzeInOrder twoSources (fun _ => return none) false
      ⟨["b.py", "src"], none, .json, none, none⟩ [1, 0]).run ()).1
    twoSources.IsStill () ∧
      twoSources.filesUnder () ["src", "b.py"] = ["src/a.py", "b.py"] ∧
      (run ["b.py", "src"]).page = (run ["src", "b.py"]).page ∧
      (run ["b.py", "src"]).ending = (run ["src", "b.py"]).ending ∧
      other.page = (run ["src", "b.py"]).page ∧
      other.ending = (run ["src", "b.py"]).ending := by
  intro run other
  obtain ⟨hsrc, hb⟩ := filesAt?_twoSources
  have hstill : twoSources.IsStill () := ⟨fun _ => rfl, fun _ => rfl, fun _ => rfl⟩
  have hfiles : twoSources.filesUnder () ["src", "b.py"] = ["src/a.py", "b.py"] := by
    simp [FileAccess.filesUnder, hsrc, hb]
  obtain ⟨-, -, -, -, -, -, -, -, -, hsame⟩ := runAnalyze_independent_of_order twoSources
    (fun _ => return none) false ⟨["src", "b.py"], none, .json, none, none⟩
    (s := ()) (t := ()) (c := .default) rfl (by decide) hstill
    (by simp [hsrc, hb])
    (by simp [hfiles, pathParts_a, pathParts_b])
  obtain ⟨⟨hpage, hending⟩, hsideBySide⟩ := hsame ["b.py", "src"] (.swap ..)
  obtain ⟨-, hpage', hending'⟩ := hsideBySide [1, 0] (by rw [hfiles]; decide)
  exact ⟨hstill, hfiles, hpage, hending, hpage', hending'⟩

end Command

end EnergyAudit
