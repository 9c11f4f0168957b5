import AntTrail.Decimal
import AntTrail.Position

/-!
The settings of a run, what they are when nothing is said, and which are refused.

`EvolutionSettings.check` and `GrowthBounds.check` report the first reason for
refusal in a fixed order. `EvolutionSettings.breedTarget` turns the share of
offspring into a number of slots.
-/
namespace AntTrail

/-- Why settings are refused. -/
inductive SettingsError where
  /-- No room for a leaf. -/
  | noHeight
  /-- The bounds on heights leave nothing between them. -/
  | heightsCrossed (minHeight maxHeight : Nat)
  | noPopulation
  | tooManyElites (elites size : Nat)
  | noTournament
  | fractionOutside (fraction : Float)
  | noWorkers
  | noSteps
  /-- Less food is counted than lies on the board. -/
  | tooLittleFood (total onBoard : Int)
  /-- A checkpoint holds another number of programs than the settings demand. -/
  | populationMismatch (held demanded : Nat)

/-- Shares are shown by the fewest digits that identify them, without exponent
and without a fraction that is zero. -/
def shareLayout : Decimal.Layout where
  tie := .up
  positional := fun _ => true
  pointZero := false

/-- The text that says why. -/
def SettingsError.message (e : SettingsError) : String :=
  "Invalid configuration: " ++ match e with
    | noHeight => "max_height must be at least 1"
    | heightsCrossed minHeight maxHeight =>
      s!"min_height {minHeight} is larger than max_height {maxHeight}"
    | noPopulation => "population_size must be positive"
    | tooManyElites elites size => s!"elite_count {elites} exceeds population_size {size}"
    | noTournament => "tournament_size must be positive"
    | fractionOutside fraction =>
      s!"crossover_fraction {shareLayout.text fraction} is outside [0, 1]"
    | noWorkers => "num_workers must be positive"
    | noSteps => "max_steps must be positive"
    | tooLittleFood total onBoard =>
      s!"max_food {total} is below the {onBoard} food cells on the board"
    | populationMismatch held demanded =>
      s!"checkpoint holds {held} programs, population_size is {demanded}"

/-- The board that is expected, and the ant on it. -/
structure TrialSettings where
  boardWidth : Int32 := 32
  boardHeight : Int32 := 32
  /-- The steps that an ant may take. -/
  maxSteps : Int32 := 400
  /-- The food to score against; `none` for the food on the board. -/
  maxFood : Option Int32 := some 89
  start : Position := {}
  heading : Heading := .east
deriving DecidableEq, Repr

/-- The bounds within which random programs grow. -/
structure GrowthBounds where
  /-- The depth from which leaves are drawn too. -/
  minHeight : Nat := 2
  /-- The depth at which only leaves are drawn. -/
  maxHeight : Nat := 5
deriving DecidableEq, Repr

/-- The first reason to refuse the bounds. -/
def GrowthBounds.check (b : GrowthBounds) : Except SettingsError Unit := do
  if b.maxHeight < 1 then throw .noHeight
  if b.minHeight > b.maxHeight then throw (.heightsCrossed b.minHeight b.maxHeight)

/-- How generations follow each other. -/
structure EvolutionSettings where
  populationSize : Nat := 5000
  /-- The generation before which a run ends. -/
  generations : UInt64 := 5000
  /-- The number of best programs that are kept as they are. -/
  eliteCount : Nat := 10
  /-- The number of candidates for a parent. -/
  tournamentSize : Nat := 4
  /-- The share of a generation that elites and offspring fill. -/
  crossoverFraction : Float := 2.0 / 3.0
  seed : UInt64 := 5489
  numWorkers : Nat := 4
  /-- Whether a run ends when a program has eaten all food. -/
  stopOnPerfect : Bool := false
  growth : GrowthBounds := {}
  trial : TrialSettings := {}
deriving Repr

namespace EvolutionSettings

/-- The number of slots that elites and offspring fill. A little is added before
rounding down, so that the nearest number below an integer counts as it. -/
def breedTarget (s : EvolutionSettings) : Nat :=
  let share := s.populationSize.toFloat * s.crossoverFraction
  -- the conversion cuts off the fraction
  min (share + 1e-9).toUInt64.toNat s.populationSize

/-- The first reason to refuse the settings. -/
def check (s : EvolutionSettings) : Except SettingsError Unit := do
  if s.populationSize = 0 then throw .noPopulation
  if s.eliteCount > s.populationSize then throw (.tooManyElites s.eliteCount s.populationSize)
  if s.tournamentSize = 0 then throw .noTournament
  if !(0.0 ≤ s.crossoverFraction && s.crossoverFraction ≤ 1.0) then
    throw (.fractionOutside s.crossoverFraction)
  if s.numWorkers = 0 then throw .noWorkers
  if s.trial.maxSteps.toInt ≤ 0 then throw .noSteps
  s.growth.check

/-- Elites and offspring never need more slots than there are. -/
theorem breedTarget_le (s : EvolutionSettings) : s.breedTarget ≤ s.populationSize :=
  Nat.min_le_right ..

end EvolutionSettings

/-- All that is said about a run. -/
structure RunSettings where
  evolution : EvolutionSettings := {}
  /-- The board; the Santa Fe trail when nothing is said. -/
  boardPath : Option String := none
  /-- A program to show instead of a search for one. -/
  program : Option String := none
  /-- Where the last state of the run is written. -/
  checkpointPath : Option String := none
  /-- The state from which the run continues. -/
  resumeFrom : Option String := none
  /-- Every how many generations there is a summary. -/
  reportInterval : Nat := 10
  logFilter : String := "info,ant_evolution=debug"
  logJson : Bool := false
deriving Repr

end AntTrail
