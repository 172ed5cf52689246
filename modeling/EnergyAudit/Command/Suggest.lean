import EnergyAudit.Command.Analyze
import EnergyAudit.Provider.Http
import EnergyAudit.Suggestion.Orchestrator

/-!
# The command that asks for a suggestion

The function has to be one of the file.  The providers are those of the configuration, with a ledger
of their own.

## Main definitions

* `Carrier` — how requests are carried.
* `suggestOutcome` — what comes of a request for a function of a session.
* `runSuggest` — the command.
-/

namespace EnergyAudit.Command

open EnergyAudit.Files EnergyAudit.Provider EnergyAudit.Text

/-- How requests are carried.  All that may change is a value of type `σ`. -/
structure Carrier (σ : Type) where
  /-- The time, in nanoseconds. -/
  now : σ → Nat
  /-- Whether the user has given up. -/
  isGivenUp : σ → Bool
  /-- Carries a request; there is no reply if the user gives up while waiting for it. -/
  carry : HttpRequest Url → OptionT (StateM σ) Reply

/-- The course of a call in which no reply comes because the user has given up, and else in which
the provider says something in time. -/
def Carrier.call {σ : Type} (c : Carrier σ) (i : Installation Client) (prompt : String) :
    StateM σ CallCourse := do
  match ← (i.provider.ask Web.standard c.carry prompt).run with
  | none => return ⟨none, some 0⟩
  | some said => return ⟨some (0, said), none⟩

/-- What surrounds a request whose providers are on the web. -/
def Carrier.surroundings {σ : Type} (c : Carrier σ) : Surroundings σ Client :=
  ⟨c.now, c.isGivenUp, id, c.call⟩

/-- What is written on a function that is not there. -/
def unknownFunctionLines (s : Session) (error : AnalysisError) : List String :=
  let known := s.hotspots.map fun h => h.functionId.text
  ("Error: " ++ error.message) ::
    if known.isEmpty then [] else ["Known functions: " ++ ", ".intercalate known]

/-- The result as it is written. -/
def suggestionText (format : OutputFormat) (isColored : Bool) (r : SuggestionResult) : String :=
  match format with
  | .json => r.json.pretty ++ "\n"
  | .pretty => suggestionPage isColored r

/-- What comes of a result. -/
def resultOutcome (format : OutputFormat) (isColored : Bool) (r : SuggestionResult) : Outcome :=
  ⟨[.page (suggestionText format isColored r)],
    if r.isSuccess then .success else .unsuccessful⟩

/-- What comes of a request for a function of a session, with what is left of the world. -/
def suggestOutcome {σ : Type} (carrier : Carrier σ) (environment : String → Option String)
    (isColored : Bool) (format : OutputFormat) (settings : SuggestionSettings) (s : Session)
    (id : FunctionId) (world : σ) : Outcome × σ :=
  match s.select id with
  | .error e => (.complain (unknownFunctionLines s e) .unsuccessful, world)
  | .ok _ =>
    let make (p : ProviderSettings) := .ok (Client.ofSettings environment p)
    match Orchestrator.ofSettings make settings .empty with
    | (some e, a) =>
      ((Outcome.complain ["Error: " ++ e.message,
        "Run 'ecocode init' to create a config file with providers"] .refused).after
        (a.log.map .log), world)
    | (none, a) =>
      match s.suggest id a.orchestrator carrier.surroundings a.ledger world with
      | .error e =>
        ((Outcome.complain ["Error: " ++ e.message] .unsuccessful).after (a.log.map .log), world)
      | .ok p =>
        let o := match p.request.result? with
          | some r => resultOutcome format isColored r
          | none => ⟨[], .unsuccessful⟩
        (o.after ((a.log ++ p.request.log).map .log), p.world)

/-- The command. -/
def runSuggest {m : Type → Type} [Monad m] {σ : Type} (fs : FileAccess m) (carrier : Carrier σ)
    (lookUp : String → m (Option String)) (isColored : Bool) (o : SuggestOptions) (world : σ) :
    m (Outcome × σ) := do
  match ← loadConfiguration fs lookUp o.configuration? with
  | .error outcome => return (outcome, world)
  | .ok (c, outputs) =>
    let (session, lines) := analyzeFile c.analysis o.file (← fs.readText o.file)
    let outputs := outputs ++ lines.map .log
    match session with
    | .error e =>
      return ((Outcome.complain ["Error: " ++ e.message] .unsuccessful).after outputs, world)
    | .ok s =>
      let environment ← lookUpAll lookUp c.suggestion.keyVariables
      let (outcome, world) := suggestOutcome carrier environment isColored o.format c.suggestion s
        ⟨o.functionId⟩ world
      return (outcome.after outputs, world)

end EnergyAudit.Command
