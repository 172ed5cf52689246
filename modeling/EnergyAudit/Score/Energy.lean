/-!
# Energy

What a run of a function may cost in energy and money, guessed from its score.

## Main definitions

* `EnergyEstimate` — with `EnergyEstimate.ofScore`.
-/

namespace EnergyAudit

/-- The joules of one run for each point of the score. -/
def joulesPerPoint : Float := 0.05

/-- The joules in a kilowatt hour. -/
def joulesPerKilowattHour : Float := 3600000.0

/-- The price of a kilowatt hour where none is given. -/
def defaultElectricityRate : Float := 8.0

/-- What every report says of its estimates. -/
def estimateNote : String :=
  "Energy and cost are heuristic estimates from static analysis (not hardware power counters)."

/-- The energy of one run, and the cost of many. -/
structure EnergyEstimate where
  joulesPerRun : Float
  costPer1000Runs : Float
  costPer1mRuns : Float
deriving BEq, Inhabited

/-- A number rounded to the multiples of a fraction, which is given by how many of it make one; what
lies halfway goes away from zero. -/
def roundTo (perUnit x : Float) : Float := (x * perUnit).round / perUnit

/-- The estimate for a score at a price of electricity. -/
def EnergyEstimate.ofScore (score : UInt64) (ratePerKwh : Float) : EnergyEstimate :=
  let joules := roundTo 10000.0 (score.toFloat * joulesPerPoint)
  let cost := joules / joulesPerKilowattHour * ratePerKwh
  { joulesPerRun := joules
    costPer1000Runs := roundTo 1000000.0 (cost * 1000.0)
    costPer1mRuns := roundTo 10000.0 (cost * 1000000.0) }

end EnergyAudit
