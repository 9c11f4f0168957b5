import AntTrail.Proofs.Json.Form
import AntTrail.Settings.Reader

/-!
# Settings of which some are said

A `Partial` record says something of some settings and nothing of others; `Partial.over` puts
what it says into given settings. How each setting is written stands in one list of parts for
each record, and the parts are the fields that are read (`describes_parts`). So a record that
writes exactly what is said, in any order and with other members between, is read as the
settings that hold when nothing is said with what is said put in (`read_takes`).
-/
namespace AntTrail

open Json
open Json.Document (WritesInteger WritesReal WritesText WritesOptional WritesName WritesRecord)

/-! ## What may be said, and where it is put -/

/-- What is said of the settings of a trial. -/
structure TrialSettings.Partial where
  boardWidth : Option Int32 := none
  boardHeight : Option Int32 := none
  maxSteps : Option Int32 := none
  /-- It may be said that the food on the board counts. -/
  maxFood : Option (Option Int32) := none
  start : Option Position := none
  heading : Option Heading := none

/-- Settings with what is said of them put in. -/
def TrialSettings.Partial.over (p : TrialSettings.Partial) (s : TrialSettings) : TrialSettings where
  boardWidth := p.boardWidth.getD s.boardWidth
  boardHeight := p.boardHeight.getD s.boardHeight
  maxSteps := p.maxSteps.getD s.maxSteps
  maxFood := p.maxFood.getD s.maxFood
  start := p.start.getD s.start
  heading := p.heading.getD s.heading

/-- What is said of the bounds on heights. -/
structure GrowthBounds.Partial where
  minHeight : Option UInt32 := none
  maxHeight : Option UInt32 := none

/-- Bounds with what is said of them put in. -/
def GrowthBounds.Partial.over (p : GrowthBounds.Partial) (s : GrowthBounds) : GrowthBounds where
  minHeight := (p.minHeight.map UInt32.toNat).getD s.minHeight
  maxHeight := (p.maxHeight.map UInt32.toNat).getD s.maxHeight

/-- What is said of the settings of an evolution. -/
structure EvolutionSettings.Partial where
  populationSize : Option UInt64 := none
  generations : Option UInt64 := none
  eliteCount : Option UInt64 := none
  tournamentSize : Option UInt64 := none
  crossoverFraction : Option Float := none
  seed : Option UInt64 := none
  numWorkers : Option UInt64 := none
  stopOnPerfect : Option Bool := none
  growth : Option GrowthBounds.Partial := none
  trial : Option TrialSettings.Partial := none

/-- Settings with what is said of them put in. What is not said of the bounds or of the trial is
as if nothing had been said of them. -/
def EvolutionSettings.Partial.over (p : EvolutionSettings.Partial) (s : EvolutionSettings) :
    EvolutionSettings where
  populationSize := (p.populationSize.map UInt64.toNat).getD s.populationSize
  generations := p.generations.getD s.generations
  eliteCount := (p.eliteCount.map UInt64.toNat).getD s.eliteCount
  tournamentSize := (p.tournamentSize.map UInt64.toNat).getD s.tournamentSize
  crossoverFraction := p.crossoverFraction.getD s.crossoverFraction
  seed := p.seed.getD s.seed
  numWorkers := (p.numWorkers.map UInt64.toNat).getD s.numWorkers
  stopOnPerfect := p.stopOnPerfect.getD s.stopOnPerfect
  growth := (p.growth.map fun g => g.over {}).getD s.growth
  trial := (p.trial.map fun t => t.over {}).getD s.trial

/-- What is said of a run. -/
structure RunSettings.Partial where
  evolution : Option EvolutionSettings.Partial := none
  boardPath : Option (Option String) := none
  program : Option (Option String) := none
  checkpointPath : Option (Option String) := none
  resumeFrom : Option (Option String) := none
  reportInterval : Option UInt64 := none
  logFilter : Option String := none
  logJson : Option Bool := none

/-- Settings with what is said of them put in. -/
def RunSettings.Partial.over (p : RunSettings.Partial) (s : RunSettings) : RunSettings where
  evolution := (p.evolution.map fun e => e.over {}).getD s.evolution
  boardPath := p.boardPath.getD s.boardPath
  program := p.program.getD s.program
  checkpointPath := p.checkpointPath.getD s.checkpointPath
  resumeFrom := p.resumeFrom.getD s.resumeFrom
  reportInterval := (p.reportInterval.map UInt64.toNat).getD s.reportInterval
  logFilter := p.logFilter.getD s.logFilter
  logJson := p.logJson.getD s.logJson

/-! ## How it is written -/

/-- The coordinates of a position; both are said. -/
def Position.parts : List (Part Position Position) := [
  ⟨"x", fun p => some p.x, fun o p => { p with x := o.getD p.x }, fun n => WritesInteger n.toInt⟩,
  ⟨"y", fun p => some p.y, fun o p => { p with y := o.getD p.y }, fun n => WritesInteger n.toInt⟩]

/-- The settings of a trial. -/
def TrialSettings.parts : List (Part TrialSettings.Partial TrialSettings) := [
  ⟨"board_width", (·.boardWidth), fun o s => { s with boardWidth := o.getD s.boardWidth },
    fun n => WritesInteger n.toInt⟩,
  ⟨"board_height", (·.boardHeight), fun o s => { s with boardHeight := o.getD s.boardHeight },
    fun n => WritesInteger n.toInt⟩,
  ⟨"max_steps", (·.maxSteps), fun o s => { s with maxSteps := o.getD s.maxSteps },
    fun n => WritesInteger n.toInt⟩,
  ⟨"max_food", (·.maxFood), fun o s => { s with maxFood := o.getD s.maxFood },
    WritesOptional fun n => WritesInteger n.toInt⟩,
  ⟨"start", (·.start), fun o s => { s with start := o.getD s.start },
    WritesRecord Position.parts⟩,
  ⟨"heading", (·.heading), fun o s => { s with heading := o.getD s.heading },
    fun h => WritesName h.name⟩]

/-- The bounds on heights. -/
def GrowthBounds.parts : List (Part GrowthBounds.Partial GrowthBounds) := [
  ⟨"min_height", (·.minHeight),
    fun o s => { s with minHeight := (o.map UInt32.toNat).getD s.minHeight },
    fun n => WritesInteger n.toNat⟩,
  ⟨"max_height", (·.maxHeight),
    fun o s => { s with maxHeight := (o.map UInt32.toNat).getD s.maxHeight },
    fun n => WritesInteger n.toNat⟩]

/-- The settings of an evolution. -/
def EvolutionSettings.parts : List (Part EvolutionSettings.Partial EvolutionSettings) := [
  ⟨"population_size", (·.populationSize),
    fun o s => { s with populationSize := (o.map UInt64.toNat).getD s.populationSize },
    fun n => WritesInteger n.toNat⟩,
  ⟨"generations", (·.generations), fun o s => { s with generations := o.getD s.generations },
    fun n => WritesInteger n.toNat⟩,
  ⟨"elite_count", (·.eliteCount),
    fun o s => { s with eliteCount := (o.map UInt64.toNat).getD s.eliteCount },
    fun n => WritesInteger n.toNat⟩,
  ⟨"tournament_size", (·.tournamentSize),
    fun o s => { s with tournamentSize := (o.map UInt64.toNat).getD s.tournamentSize },
    fun n => WritesInteger n.toNat⟩,
  ⟨"crossover_fraction", (·.crossoverFraction),
    fun o s => { s with crossoverFraction := o.getD s.crossoverFraction }, WritesReal⟩,
  ⟨"seed", (·.seed), fun o s => { s with seed := o.getD s.seed }, fun n => WritesInteger n.toNat⟩,
  ⟨"num_workers", (·.numWorkers),
    fun o s => { s with numWorkers := (o.map UInt64.toNat).getD s.numWorkers },
    fun n => WritesInteger n.toNat⟩,
  ⟨"stop_on_perfect", (·.stopOnPerfect),
    fun o s => { s with stopOnPerfect := o.getD s.stopOnPerfect }, fun b d => d = .bool b⟩,
  ⟨"generator", (·.growth),
    fun o s => { s with growth := (o.map fun g => g.over {}).getD s.growth },
    WritesRecord GrowthBounds.parts⟩,
  ⟨"simulation", (·.trial),
    fun o s => { s with trial := (o.map fun t => t.over {}).getD s.trial },
    WritesRecord TrialSettings.parts⟩]

/-- The settings of a run. -/
def RunSettings.parts : List (Part RunSettings.Partial RunSettings) := [
  ⟨"evolution", (·.evolution),
    fun o s => { s with evolution := (o.map fun e => e.over {}).getD s.evolution },
    WritesRecord EvolutionSettings.parts⟩,
  ⟨"board_path", (·.boardPath), fun o s => { s with boardPath := o.getD s.boardPath },
    WritesOptional WritesText⟩,
  ⟨"program", (·.program), fun o s => { s with program := o.getD s.program },
    WritesOptional WritesText⟩,
  ⟨"checkpoint_path", (·.checkpointPath),
    fun o s => { s with checkpointPath := o.getD s.checkpointPath }, WritesOptional WritesText⟩,
  ⟨"resume_from", (·.resumeFrom), fun o s => { s with resumeFrom := o.getD s.resumeFrom },
    WritesOptional WritesText⟩,
  ⟨"report_interval", (·.reportInterval),
    fun o s => { s with reportInterval := (o.map UInt64.toNat).getD s.reportInterval },
    fun n => WritesInteger n.toNat⟩,
  ⟨"log_filter", (·.logFilter), fun o s => { s with logFilter := o.getD s.logFilter },
    WritesText⟩,
  ⟨"log_json", (·.logJson), fun o s => { s with logJson := o.getD s.logJson },
    fun b d => d = .bool b⟩]

/-! ## The parts are the fields -/

namespace Position

theorem overlay_parts (p q : Position) : overlay parts p q = p := rfl

theorem describes_parts : Describes parts schema where
  fields := .cons ⟨rfl, fun _ _ h => (Reader.int32_takes h).map _⟩ <|
    .cons ⟨rfl, fun _ _ h => (Reader.int32_takes h).map _⟩ .nil
  nodup := by decide
  put_none := by simp [parts]
  commutes := by simp [parts, Part.Commutes]

theorem read_takes {p : Position} {d : Document} (h : d.WritesRecord parts p) :
    schema.read.Takes d.tokens p := by
  rw [← overlay_parts p {}]
  exact describes_parts.read_takes_overlay h fun _ => by simp [parts]

end Position

namespace TrialSettings

theorem overlay_parts (p : Partial) (s : TrialSettings) : overlay parts p s = p.over s := rfl

theorem maxFood_takes {o : Option Int32} {d : Document}
    (h : WritesOptional (fun n => WritesInteger n.toInt) o d) :
    (Reader.optional Reader.int32).Takes d.tokens o :=
  Reader.optional_takes (fun _ h => Reader.int32_takes h) (by simp [WritesInteger]) h

theorem find?_clockwise (h : Heading) :
    Heading.clockwise.find? (fun v => v.name == h.name) = some h := by
  cases h <;> decide

theorem describes_parts : Describes parts schema where
  fields :=
    .cons ⟨rfl, fun _ _ h => (Reader.int32_takes h).map _⟩ <|
    .cons ⟨rfl, fun _ _ h => (Reader.int32_takes h).map _⟩ <|
    .cons ⟨rfl, fun _ _ h => (Reader.int32_takes h).map _⟩ <|
    .cons ⟨rfl, fun _ _ h => (maxFood_takes h).map _⟩ <|
    .cons ⟨rfl, fun _ _ h => (Position.read_takes h).map _⟩ <|
    .cons ⟨rfl, fun v _ h => (Reader.choice_takes h (find?_clockwise v)).map _⟩ .nil
  nodup := by decide
  put_none := by simp [parts]
  commutes := by simp [parts, Part.Commutes]

theorem read_takes {p : Partial} {d : Document} (h : WritesRecord parts p d) :
    schema.read.Takes d.tokens (p.over {}) := by
  rw [← overlay_parts]
  exact describes_parts.read_takes_overlay h nofun

end TrialSettings

namespace GrowthBounds

theorem overlay_parts (p : Partial) (s : GrowthBounds) : overlay parts p s = p.over s := rfl

theorem describes_parts : Describes parts schema where
  fields :=
    .cons ⟨rfl, fun _ _ h => (Reader.uint32_takes h).map _⟩ <|
    .cons ⟨rfl, fun _ _ h => (Reader.uint32_takes h).map _⟩ .nil
  nodup := by decide
  put_none := by simp [parts]
  commutes := by simp [parts, Part.Commutes]

theorem read_takes {p : Partial} {d : Document} (h : WritesRecord parts p d) :
    schema.read.Takes d.tokens (p.over {}) := by
  rw [← overlay_parts]
  exact describes_parts.read_takes_overlay h nofun

end GrowthBounds

namespace EvolutionSettings

theorem overlay_parts (p : Partial) (s : EvolutionSettings) : overlay parts p s = p.over s := rfl

theorem uint64_map_takes {n : UInt64} {d : Document} (h : WritesInteger n.toNat d)
    (f : UInt64 → EvolutionSettings → EvolutionSettings) :
    ((fun n => f (UInt64.ofNat n)) <$> Reader.uint64).Takes d.tokens (f n) := by
  have htakes := (Reader.uint64_takes h).map fun n => f (UInt64.ofNat n)
  rwa [UInt64.ofNat_toNat] at htakes

theorem describes_parts : Describes parts schema where
  fields :=
    .cons ⟨rfl, fun _ _ h => (Reader.size_takes h).map _⟩ <|
    .cons ⟨rfl, fun _ _ h => uint64_map_takes h fun n s => { s with generations := n }⟩ <|
    .cons ⟨rfl, fun _ _ h => (Reader.size_takes h).map _⟩ <|
    .cons ⟨rfl, fun _ _ h => (Reader.size_takes h).map _⟩ <|
    .cons ⟨rfl, fun _ _ h => (Reader.real_takes h).map _⟩ <|
    .cons ⟨rfl, fun _ _ h => uint64_map_takes h fun n s => { s with seed := n }⟩ <|
    .cons ⟨rfl, fun _ _ h => (Reader.size_takes h).map _⟩ <|
    .cons ⟨rfl, fun b _ h => h ▸ (Reader.bool_takes b).map _⟩ <|
    .cons ⟨rfl, fun _ _ h => (GrowthBounds.read_takes h).map _⟩ <|
    .cons ⟨rfl, fun _ _ h => (TrialSettings.read_takes h).map _⟩ .nil
  nodup := by decide
  put_none := by simp [parts]
  commutes := by simp [parts, Part.Commutes]

theorem read_takes {p : Partial} {d : Document} (h : WritesRecord parts p d) :
    schema.read.Takes d.tokens (p.over {}) := by
  rw [← overlay_parts]
  exact describes_parts.read_takes_overlay h nofun

end EvolutionSettings

namespace RunSettings

theorem overlay_parts (p : Partial) (s : RunSettings) : overlay parts p s = p.over s := rfl

theorem optionalText_takes {o : Option String} {d : Document} (h : WritesOptional WritesText o d) :
    optionalText.Takes d.tokens o :=
  Reader.optional_takes (fun _ h => Reader.text_takes h _) (by simp [WritesText]) h

theorem describes_parts : Describes parts schema where
  fields :=
    .cons ⟨rfl, fun _ _ h => (EvolutionSettings.read_takes h).map _⟩ <|
    .cons ⟨rfl, fun _ _ h => (optionalText_takes h).map _⟩ <|
    .cons ⟨rfl, fun _ _ h => (optionalText_takes h).map _⟩ <|
    .cons ⟨rfl, fun _ _ h => (optionalText_takes h).map _⟩ <|
    .cons ⟨rfl, fun _ _ h => (optionalText_takes h).map _⟩ <|
    .cons ⟨rfl, fun _ _ h => (Reader.uint64_takes h).map _⟩ <|
    .cons ⟨rfl, fun _ _ h => (Reader.text_takes h _).map _⟩ <|
    .cons ⟨rfl, fun b _ h => h ▸ (Reader.bool_takes b).map _⟩ .nil
  nodup := by decide
  put_none := by simp [parts]
  commutes := by simp [parts, Part.Commutes]

theorem read_takes {p : Partial} {d : Document} (h : WritesRecord parts p d) :
    schema.read.Takes d.tokens (p.over {}) := by
  rw [← overlay_parts]
  exact describes_parts.read_takes_overlay h nofun

end RunSettings

end AntTrail
