import AntTrail.Json.Reader
import AntTrail.Settings

/-!
Settings as JSON text.

Every record of settings may leave out any field, which then has the value that
holds when nothing is said, and other members are ignored. Only a position needs
both of its coordinates.
-/
namespace AntTrail

open Json (Field Reader Schema)

/-- A position: both coordinates. -/
def Position.schema : Schema Position where
  name := "struct Position"
  start := {}
  complete := true
  fields := [
    ⟨"x", Reader.int32.map fun x p => { p with x }⟩,
    ⟨"y", Reader.int32.map fun y p => { p with y }⟩]

/-- A heading, by its name. -/
def Heading.reader : Reader Heading := Reader.choice Heading.name Heading.clockwise

/-- The settings of a trial. -/
def TrialSettings.schema : Schema TrialSettings where
  name := "struct SimulationConfig"
  start := {}
  fields := [
    ⟨"board_width", Reader.int32.map fun boardWidth s => { s with boardWidth }⟩,
    ⟨"board_height", Reader.int32.map fun boardHeight s => { s with boardHeight }⟩,
    ⟨"max_steps", Reader.int32.map fun maxSteps s => { s with maxSteps }⟩,
    ⟨"max_food", (Reader.optional Reader.int32).map fun maxFood s => { s with maxFood }⟩,
    ⟨"start", Position.schema.read.map fun start s => { s with start }⟩,
    ⟨"heading", Heading.reader.map fun heading s => { s with heading }⟩]

/-- The bounds on heights. -/
def GrowthBounds.schema : Schema GrowthBounds where
  name := "struct GeneratorConfig"
  start := {}
  fields := [
    ⟨"min_height", Reader.uint32.map fun minHeight s => { s with minHeight }⟩,
    ⟨"max_height", Reader.uint32.map fun maxHeight s => { s with maxHeight }⟩]

/-- The settings of an evolution. -/
def EvolutionSettings.schema : Schema EvolutionSettings where
  name := "struct EvolutionConfig"
  start := {}
  fields := [
    ⟨"population_size", Reader.size.map fun populationSize s => { s with populationSize }⟩,
    ⟨"generations", Reader.uint64.map fun n s => { s with generations := UInt64.ofNat n }⟩,
    ⟨"elite_count", Reader.size.map fun eliteCount s => { s with eliteCount }⟩,
    ⟨"tournament_size", Reader.size.map fun tournamentSize s => { s with tournamentSize }⟩,
    ⟨"crossover_fraction", Reader.real.map fun crossoverFraction s => { s with crossoverFraction }⟩,
    ⟨"seed", Reader.uint64.map fun n s => { s with seed := UInt64.ofNat n }⟩,
    ⟨"num_workers", Reader.size.map fun numWorkers s => { s with numWorkers }⟩,
    ⟨"stop_on_perfect", Reader.bool.map fun stopOnPerfect s => { s with stopOnPerfect }⟩,
    ⟨"generator", GrowthBounds.schema.read.map fun growth s => { s with growth }⟩,
    ⟨"simulation", TrialSettings.schema.read.map fun trial s => { s with trial }⟩]

/-- A text that may be absent. -/
def optionalText : Reader (Option String) := Reader.optional (Reader.string "a string")

/-- The settings of a run. -/
def RunSettings.schema : Schema RunSettings where
  name := "struct RunnerConfig"
  start := {}
  fields := [
    ⟨"evolution", EvolutionSettings.schema.read.map fun evolution s => { s with evolution }⟩,
    ⟨"board_path", optionalText.map fun boardPath s => { s with boardPath }⟩,
    ⟨"program", optionalText.map fun program s => { s with program }⟩,
    ⟨"checkpoint_path", optionalText.map fun checkpointPath s => { s with checkpointPath }⟩,
    ⟨"resume_from", optionalText.map fun resumeFrom s => { s with resumeFrom }⟩,
    ⟨"report_interval", Reader.uint64.map fun reportInterval s => { s with reportInterval }⟩,
    ⟨"log_filter", (Reader.string "a string").map fun logFilter s => { s with logFilter }⟩,
    ⟨"log_json", Reader.bool.map fun logJson s => { s with logJson }⟩]

namespace RunSettings

/-- Reads settings from JSON text. -/
def ofText (text : String) : Except Json.ReadError RunSettings := Json.readText schema.read text

/-- The text that says why settings cannot be read. -/
def unreadable (e : Json.ReadError) : String := s!"Serialization error: {e.message}"

end RunSettings
end AntTrail
