import EnergyAudit.Log.Line

/-!
# Which lines are written

A filter is a list of directives.  Each sets the levels that are written, for all topics or for
those that start in some way; for a line the directive with the longest start decides.

## Main definitions

* `defaultDirective` — the filter for a verbosity.
* `LogDirective`, `LogFilter` — filters.
* `LogFilter.parse?` — the filter that a text stands for.
* `LogFilter.admits` — whether a line is written.
-/

namespace EnergyAudit

/-- The filter for a verbosity. -/
def defaultDirective (verbosity : Nat) : String :=
  match verbosity with
  | 0 => "ecocode=warn"
  | 1 => "ecocode=info"
  | 2 => "ecocode=debug"
  | _ => "debug"

/-- The levels that are written for some topics. -/
structure LogDirective where
  /-- How the topics start; none stands for all topics. -/
  topic? : Option String
  /-- The greatest rank of a level that is written. -/
  rank : Nat
  /-- Whether it counts only within some stretch of work, of which there is none here. -/
  isScoped : Bool
deriving BEq, DecidableEq, Repr

/-- Some directives, the latest last. -/
structure LogFilter where
  directives : List LogDirective
deriving BEq, DecidableEq, Repr

/-- The greatest rank of a level that a word lets through. -/
def levelRank? (word : String) : Option Nat :=
  let names : List (String × Nat) :=
    [("off", 0), ("error", 1), ("warn", 2), ("info", 3), ("debug", 4), ("trace", 5),
      ("0", 0), ("1", 1), ("2", 2), ("3", 3), ("4", 4), ("5", 5)]
  names.lookup (String.ofList (word.toList.map Char.toLower))

namespace LogDirective

/-- The rank that lets everything through. -/
def allRanks : Nat := 5

/-- The level of a directive behind its equals sign; without a word everything is let through. -/
def readLevel? (word : List Char) : Option Nat :=
  if word.isEmpty then some allRanks else levelRank? (.ofList word)

/-- Whether a directive can start with a character. -/
def canStart (c : Char) : Bool := c.isAlphanum || c == '-' || c == ':' || c == '_' || 0x80 ≤ c.val

/-- The rest of a directive behind a stretch of work in brackets. -/
def readScope? (topic? : Option String) (text : List Char) : Option LogDirective :=
  match text.dropWhile (· != ']') with
  | [']'] => some ⟨topic?, allRanks, true⟩
  | ']' :: '=' :: word => (readLevel? word).map fun rank => ⟨topic?, rank, true⟩
  | _ => none

/-- The directive that a text stands for: a level, a topic, or a topic with its level. -/
def parse? (text : String) : Option LogDirective :=
  let chars := text.toList
  match chars with
  | [] => none
  | '[' :: scope => readScope? none scope
  | c :: _ =>
    if !canStart c then none
    else
      let name := chars.takeWhile fun c => c != '=' && c != '['
      match chars.drop name.length with
      | '=' :: word => (readLevel? word).map fun rank => ⟨some (.ofList name), rank, false⟩
      | '[' :: scope => readScope? (some (.ofList name)) scope
      | _ =>
        match levelRank? text with
        | some rank => some ⟨none, rank, false⟩
        | none => some ⟨some text, allRanks, false⟩

/-- How specific a directive is. -/
def weight (d : LogDirective) : Nat :=
  match d.topic? with
  | none => 0
  | some topic => topic.utf8ByteSize + 1

/-- Whether a directive is about a topic. -/
def covers (d : LogDirective) (topic : String) : Bool :=
  !d.isScoped && ((d.topic?.map fun start => topic.startsWith start).getD true)

end LogDirective

namespace LogFilter

/-- The filter that a text stands for.  Where nothing is said only errors are written. -/
def parse? (text : String) : Option LogFilter := do
  let pieces := (text.splitOn ",").filter fun piece => !piece.isEmpty
  let directives ← pieces.mapM LogDirective.parse?
  return ⟨if directives.isEmpty then [⟨none, LogLevel.error.rank, false⟩] else directives⟩

/-- The filter of an environment for a verbosity.  A text that cannot be understood does not
count. -/
def ofEnvironment (text? : Option String) (verbosity : Nat) : LogFilter :=
  ((text?.bind parse?).or (parse? (defaultDirective verbosity))).getD ⟨[]⟩

/-- The directive that decides on a topic: the most specific one, and of equal ones the latest. -/
def deciding? (f : LogFilter) (topic : String) : Option LogDirective :=
  (f.directives.filter (·.covers topic)).foldl (fun best? d =>
    match best? with
    | none => some d
    | some best => if d.weight < best.weight then some best else some d) none

/-- Whether a line is written. -/
def admits (f : LogFilter) (l : LogLine) : Bool :=
  match f.deciding? l.topic with
  | some d => l.level.rank ≤ d.rank
  | none => false

end LogFilter

end EnergyAudit
