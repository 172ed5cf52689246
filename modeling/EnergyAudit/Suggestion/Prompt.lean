import EnergyAudit.Score.Ranking
import EnergyAudit.Score.Reason
import EnergyAudit.Text.Basic

/-!
# Prompts

What a provider is asked for a function: why it is costly, and how else it could be written.

## Main definitions

* `prompt` — the prompt for a function with its score.
-/

namespace EnergyAudit

open EnergyAudit.Text

/-- What every prompt ends with. -/
def promptInstructions : String :=
  "Respond in two parts:\n" ++
  "1. Explain briefly why this function is inefficient in time or energy.\n" ++
  "2. Give a rewritten version that preserves its behavior exactly, in a single fenced code block.\n" ++
  "Keep the function name and signature unchanged. Do not include more than one code block."

/-- Three backticks, which stand before and after code. -/
def codeFence : String := "```"

/-- The reasons for a score, one on a line, under a headline if there are any. -/
def signals (r : FunctionRecord) : String :=
  if r.reasons.isEmpty then ""
  else "Signals:\n" ++ String.join (r.reasons.map fun reason => "- " ++ reason ++ "\n")

/-- How the score came about. -/
def breakdownLines (r : FunctionRecord) (b : ScoreBreakdown) : String :=
  "- loop factor: " ++ toString b.loopFactor ++
    " (loop nesting depth " ++ toString r.loopDepth ++ ")\n" ++
  "- growth factor: " ++ toString b.growthFactor ++
    " (" ++ toString r.growthOps ++ " container growth calls inside loops)\n" ++
  "- recursion bonus: " ++ toString b.recursionBonus ++ "\n" ++
  "- call fan-out cost: " ++ toString b.fanoutCost ++
    " (" ++ toString r.callFanout ++ " calls)\n"

/-- The prompt up to the fence before the code. -/
def promptOpening (r : FunctionRecord) (s : HotspotScore) (language : String) : String :=
  "You are an expert in writing fast, energy-efficient " ++ language ++ " code.\n\n" ++
  "Static analysis ranked the function below as energy hotspot #" ++ toString s.rank ++
    " with score " ++ toString s.score ++ ".\n" ++
  "Score breakdown:\n" ++ breakdownLines r s.breakdown ++ signals r ++ "\n" ++
  "Function `" ++ r.qualifiedName ++ "` (lines " ++ r.span.lines ++ "):\n"

/-- The prompt for a function with its score. -/
def prompt (r : FunctionRecord) (s : HotspotScore) (language : String) : String :=
  promptOpening r s language ++ codeFence ++ language ++ "\n" ++
    trimmedEnd r.source ++ "\n" ++ codeFence ++ "\n\n" ++ promptInstructions

end EnergyAudit
