import AntTrail.Evolution.Ranking

/-!
Reports on generations as events: a summary at every multiple of an interval,
and a brief note for the others.
-/
namespace AntTrail.Report

/-- How much an event matters. -/
inductive Level where
  | info
  | debug
deriving DecidableEq, Repr

/-- The name of a level. -/
def Level.name : Level → String
  | info => "INFO"
  | debug => "DEBUG"

/-- A value that an event carries. -/
inductive Value where
  | unsigned (n : Nat)
  | signed (n : Int32)
  | real (x : Float)
  | text (s : String)

/-- An event. -/
structure Event where
  level : Level
  message : String
  /-- Further values by name, in order. -/
  fields : List (String × Value)

/-- The event for a generation. An interval of zero counts as one. -/
def event (interval : Nat) (s : Stats) : Event :=
  if s.generation.toNat % max interval 1 = 0 then {
    level := .info
    message := s!"Generation {s.generation} best score {s.best.toInt}"
    fields := [
      ("event", .text "generation_summary"),
      ("generation", .unsigned s.generation.toNat),
      ("best_score", .signed s.best),
      ("mean_score", .real s.mean),
      ("worst_score", .signed s.worst),
      ("best_node_count", .unsigned s.bestSize),
      ("best_program", .text s.bestProgram)] }
  else {
    level := .debug
    message := "generation evaluated"
    fields := [
      ("generation", .unsigned s.generation.toNat),
      ("best_score", .signed s.best),
      ("mean_score", .real s.mean)] }

end AntTrail.Report
