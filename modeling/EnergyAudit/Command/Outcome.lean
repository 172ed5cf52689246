import EnergyAudit.Files.Access
import EnergyAudit.Log.Filter
import EnergyAudit.Text.Basic

/-!
# What a command does

A command writes pages and complaints and ends with a code, unless something fails that it cannot
say more about.

## Main definitions

* `Output`, `Outcome` — what is written and how a command ends.
* `Outcome.page`, `Outcome.allComplaints` — what is written where, with the lines of the log that a
  filter admits.
-/

namespace EnergyAudit.Command

open EnergyAudit.Text

/-- Something that is written. -/
inductive Output where
  /-- A result. -/
  | page (text : String)
  /-- A line that says what is wrong. -/
  | complaint (line : String)
  | log (line : LogLine)
deriving BEq, DecidableEq, Repr

/-- How a command ends. -/
inductive Ending where
  | code (code : Nat)
  /-- Something failed. -/
  | failed (message : String)
deriving BEq, DecidableEq, Repr

/-- The code of success. -/
def Ending.success : Ending := .code 0

/-- The code of a command whose work has not succeeded. -/
def Ending.unsuccessful : Ending := .code 1

/-- The code of a command that could not do its work. -/
def Ending.refused : Ending := .code 2

/-- The code with which the program ends. -/
def Ending.exitCode : Ending → Nat
  | .code n => n
  | .failed _ => 2

/-- What a command does. -/
structure Outcome where
  outputs : List Output
  ending : Ending
deriving BEq, DecidableEq, Repr

namespace Outcome

/-- Complaints, and an end. -/
def complain (lines : List String) (ending : Ending) : Outcome :=
  ⟨lines.map .complaint, ending⟩

/-- An outcome with something written before it. -/
def after (outputs : List Output) (o : Outcome) : Outcome :=
  { o with outputs := outputs ++ o.outputs }

/-- All results. -/
def page (o : Outcome) : String :=
  String.join (o.outputs.map fun
    | .page text => text
    | _ => "")

/-- All complaints and the lines of the log that are admitted.  Each of the latter is written in
some way.  A failure is the last complaint. -/
def allComplaints (o : Outcome) (filter : LogFilter) (write : LogLine → String) : List String :=
  o.outputs.filterMap (fun
    | .complaint line => some line
    | .log line => if filter.admits line then some (write line) else none
    | .page _ => none) ++
  match o.ending with
  | .failed message => ["Error: " ++ message]
  | .code _ => []

end Outcome

end EnergyAudit.Command
