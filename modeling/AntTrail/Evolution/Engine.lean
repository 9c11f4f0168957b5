import AntTrail.Evolution.Checkpoint
import AntTrail.Evolution.Fitness
import AntTrail.Evolution.Refill
import AntTrail.Evolution.Tournament
import AntTrail.Evolution.Workers
import AntTrail.Program.Crossover
import AntTrail.Program.Notation

/-!
Evolution: a population, and how one generation gives the next.

A run begins, or goes on from a checkpoint, if its settings are accepted and its
workers start. A step scores every program, reports on the generation, and fills
the slots of the next population: first the elites, then children of parents that
won tournaments, pair by pair up to the breed target, then random programs. A step
that fails gives no engine, so what was before it still stands.
-/
namespace AntTrail

/-- Why a run cannot begin or go on. -/
inductive EvolutionError where
  | refused (e : SettingsError)
  | growth (e : GrowthError)
  | noPrograms
  | noParents
  /-- The workers could not be started. -/
  | noPool (why : String)
  /-- The scoring of a program broke off. -/
  | brokeOff (b : Breakdown)

/-- The text that says why. -/
def EvolutionError.message : EvolutionError → String
  | refused e => e.message
  | growth e => e.message
  | noPrograms => "Empty population: no programs to evaluate"
  | noParents => "Empty population: no parents to select from"
  | noPool why => "Worker error: failed to build worker pool: " ++ why
  | brokeOff b =>
    "Worker error: evaluation worker panicked: " ++ b.words.getD "unknown panic"

/-- An error of the domain, or a fault that ends everything. -/
inductive Failure (ε : Type) where
  | error (e : ε)
  | fault (f : Fault)

/-- A run between two generations. -/
structure Engine where
  settings : EvolutionSettings
  generator : Generator
  /-- The source from which the run itself draws. -/
  source : Draw.Source
  population : Array Program
  /-- The next generation. -/
  generation : UInt64
  best : Option Best

namespace Engine

/-- The computations that draw while a generation is bred. -/
abbrev Breeding := StateT Draw.Source (Except (Failure EvolutionError))

/-- A draw, in a computation that can also fail otherwise. -/
def drawing {α : Type} (d : Draw α) : Breeding α := fun s => (d.run s).mapError .fault

/-! ## Beginning -/

/-- The generator of a run whose settings are accepted. -/
def accept (settings : EvolutionSettings) : Except (Failure EvolutionError) Generator := do
  settings.check.mapError fun e => .error (.refused e)
  (Generator.ofBounds settings.growth).mapError fun e => .error (.growth e)

/-- The generator of a run whose settings are accepted and whose workers have started. -/
def assemble (settings : EvolutionSettings) (build : PoolBuilder) :
    Except (Failure EvolutionError) Generator := do
  let generator ← accept settings
  (build settings.numWorkers workerName).mapError fun why => .error (.noPool why)
  return generator

/-- A run with a random population. -/
def new (settings : EvolutionSettings) (build : PoolBuilder := .boundless) :
    Except (Failure EvolutionError) Engine := do
  let generator ← assemble settings build
  let (programs, source) ←
    (drawing (generator.refill settings.populationSize)).run (.ofSeed settings.seed)
  return {
    settings, generator, source
    population := programs.toArray
    generation := 0
    best := none }

/-- A run that goes on where a checkpoint was taken. -/
def resume (settings : EvolutionSettings) (c : Checkpoint) (build : PoolBuilder := .boundless) :
    Except (Failure EvolutionError) Engine := do
  if c.population.length ≠ settings.populationSize then
    throw (.error (.refused (.populationMismatch c.population.length settings.populationSize)))
  let generator ← assemble settings build
  return {
    settings, generator
    source := c.source.restore
    population := c.population.toArray
    generation := c.generation
    best := c.best }

/-- The state of a run at an instant. -/
def checkpoint (e : Engine) (timestamp : Timestamp) : Checkpoint where
  version := Checkpoint.currentVersion
  timestamp := timestamp
  generation := e.generation
  seed := e.settings.seed
  source := e.source.save
  population := e.population.toList
  best := e.best

/-! ## One generation -/

/-- The scores of the population. -/
def evaluate (e : Engine) (fitness : Fitness) : Except (Failure EvolutionError) (List Int32) :=
  (e.population.toList.mapM fitness).mapError fun b => .error (.brokeOff b)

/-- The program at a place in the population. -/
def member (e : Engine) (i : Nat) : Except (Failure EvolutionError) Program :=
  match e.population[i]? with
  | some p => .ok p
  | none => .error (.fault (.outOfBounds e.population.size i))

/-- The best program so far, given the best of this generation. An equal score
does not replace it. -/
def newBest (e : Engine) (program : Program) (score : Int32) : Best :=
  match e.best with
  | some b => if score.toInt < b.score.toInt then ⟨program, score, e.generation⟩ else b
  | none => ⟨program, score, e.generation⟩

/-- A parent: the winner of a tournament. -/
def parent (e : Engine) (scores : Array Int32) : Breeding Program := do
  match ← drawing (tournament scores e.settings.tournamentSize) with
  | some i => e.member i
  | none => throw (.error .noParents)

/-- Two children of two parents. -/
def pair (e : Engine) (scores : Array Int32) : Breeding (Program × Program) := do
  let p ← e.parent scores
  let q ← e.parent scores
  drawing (p.crossover q)

/-- Children for `n` slots, pair by pair. The second child of the last pair is
dropped if `n` is odd. -/
def offspring (e : Engine) (scores : Array Int32) : (n : Nat) → Breeding (List Program)
  | 0 => return []
  | 1 => do
    let (a, _) ← e.pair scores
    return [a]
  | n + 2 => do
    let (a, b) ← e.pair scores
    let rest ← e.offspring scores n
    return a :: b :: rest

/-- The next population. -/
def breed (e : Engine) (scores : List Int32) (ranked : List Placing) :
    Breeding (List Program) := do
  let size := e.settings.populationSize
  let elites ← (ranked.take e.settings.eliteCount).mapM fun r => e.member r.index
  let children ← e.offspring scores.toArray (e.settings.breedTarget - elites.length)
  let filled := elites.length + children.length
  if size < filled then throw (.fault .subOverflow)
  let fresh ← drawing (e.generator.refill (size - filled))
  return elites ++ children ++ fresh

/-- One generation: what is reported of it, and the run after it. -/
def step (fitness : Fitness) (e : Engine) : Except (Failure EvolutionError) (Stats × Engine) := do
  let scores ← e.evaluate fitness
  let ranked := rank scores
  match ranked with
  | [] => throw (.error .noPrograms)
  | leader :: _ =>
    let program ← e.member leader.index
    let stats := Stats.ofRanked e.generation ranked program.postfixText program.size
    let (next, source) ← (e.breed scores ranked).run e.source
    if e.generation.toNat + 1 = UInt64.size then throw (.fault .addOverflow)
    return (stats, { e with
      source
      population := next.toArray
      generation := e.generation + 1
      best := some (e.newBest program leader.score) })

/-! ## Many generations -/

/-- A run of several generations. -/
structure Run where
  /-- The engine after the last generation that succeeded. -/
  engine : Engine
  /-- What was reported of each generation, in order. -/
  reports : List Stats
  /-- Whether the run stopped early, or why it failed. -/
  ending : Except (Failure EvolutionError) Bool

/-- At most `n` generations. -/
def runFor (fitness : Fitness) : (n : Nat) → Engine → Run
  | 0, e => ⟨e, [], .ok false⟩
  | n + 1, e =>
    match e.step fitness with
    | .error f => ⟨e, [], .error f⟩
    | .ok (stats, next) =>
      if next.settings.stopOnPerfect && stats.best = 0 then ⟨next, [stats], .ok true⟩
      else
        let rest := runFor fitness n next
        { rest with reports := stats :: rest.reports }

/-- Generations up to the last one that is set, or, if the settings say so, up
to the first with a perfect program. -/
def run (fitness : Fitness) (e : Engine) : Run :=
  runFor fitness (e.settings.generations.toNat - e.generation.toNat) e

end Engine
end AntTrail
