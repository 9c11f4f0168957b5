import AntTrail.Board.SantaFe
import AntTrail.Program.Run
import AntTrail.Trial

/-!
Courses: a board, settings and the food to score against, on which programs are
tried. Each trial starts from the same board.
-/
namespace AntTrail

/-- How a program did on a course. -/
structure Outcome where
  /-- The food that was left. -/
  score : Int
  foodEaten : Nat
  /-- Negative when the last pass went on after the budget was spent. -/
  stepsLeft : Int32
  /-- The number of passes of the whole program. -/
  passes : Nat
deriving DecidableEq, Repr

/-- A course. -/
structure Course where
  board : Board
  settings : TrialSettings
  foodTotal : Int32

namespace Course

/-- The course on a board. -/
def ofBoard (board : Board) (settings : TrialSettings) : Except SettingsError Course := do
  return ⟨board, settings, ← Trial.resolveFood board settings⟩

/-- The Santa Fe trail with the settings that hold when nothing is said. -/
def santaFe : Course :=
  let total := Int32.ofNat Board.santaFe.foodCount
  ⟨Board.santaFe, { maxFood := some total }, total⟩

/-- A fresh trial. -/
def trial (c : Course) : Except Fault Trial := Trial.start c.board c.settings c.foodTotal

/-- How a program does: whole passes until the trial has finished. -/
def evaluate (c : Course) (p : Program) : Except Fault Outcome := do
  let (t, passes) ← p.complete Trial.finished (← c.trial)
  return ⟨t.score, t.foodEaten, t.stepsLeft, passes⟩

end Course
end AntTrail
