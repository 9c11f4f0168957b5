import AntTrail.Action
import AntTrail.Board
import AntTrail.Settings

/-!
Trials: one ant on one board, with a budget of steps.

Every action takes a step. An ant that comes to a cell with food eats it, at the
start too. A trial has finished when the budget is spent or all food is eaten;
nothing stops an ant from acting on, so the budget can go below zero.
-/
namespace AntTrail

/-- A trial under way. -/
structure Trial where
  board : Board
  position : Position
  heading : Heading
  stepsLeft : Int32
  /-- The food to score against. -/
  foodTotal : Int32
  foodEaten : Nat
deriving DecidableEq

namespace Trial

/-- The food to score against: as set, but not less than lies on the board. -/
def resolveFood (board : Board) (settings : TrialSettings) : Except SettingsError Int32 :=
  match settings.maxFood with
  | none => .ok (Int32.ofNat board.foodCount)
  | some total =>
    if (board.foodCount : Int) ≤ total.toInt then .ok total
    else .error (.tooLittleFood total.toInt board.foodCount)

/-- The trial after the ant has eaten what its cell holds. -/
def eat (t : Trial) : Except Fault Trial := do
  match ← t.board.get t.position with
  | .food => return { t with board := ← t.board.set t.position .eaten, foodEaten := t.foodEaten + 1 }
  | _ => return t

/-- A trial at its beginning. `foodTotal` is at least the food on the board. -/
def start (board : Board) (settings : TrialSettings) (foodTotal : Int32) : Except Fault Trial := do
  let position ← settings.start.wrap board.width board.height
  eat {
    board, position, foodTotal
    heading := settings.heading
    stepsLeft := settings.maxSteps
    foodEaten := 0 }

/-- The food that is missing; none is best. -/
def score (t : Trial) : Int := t.foodTotal.toInt - t.foodEaten

/-- The budget is spent or all food is eaten. -/
def finished (t : Trial) : Bool := t.stepsLeft.toInt ≤ 0 || t.score ≤ 0

/-- The position before the ant. -/
def ahead (t : Trial) : Except Fault Position :=
  t.position.step t.heading t.board.width t.board.height

/-- Whether there is food before the ant. -/
def foodAhead (t : Trial) : Except Fault Bool := do
  let cell ← t.board.get (← t.ahead)
  return cell == .food

/-- The trial after an action. -/
def act (t : Trial) (a : Action) : Except Fault Trial := do
  let t := { t with stepsLeft := ← Checked.sub t.stepsLeft 1 }
  match a with
  | .move => eat { t with position := ← t.ahead }
  | .turnLeft => return { t with heading := t.heading.left }
  | .turnRight => return { t with heading := t.heading.right }

instance : Ant Trial where
  act a t := t.act a
  foodAhead t := do return (← t.foodAhead, t)

/-! ## Drawing -/

/-- The line above the board: steps left, score, and whether there is food ahead. -/
def statusLine (t : Trial) (foodAhead : Bool) : String :=
  s!"steps:{t.stepsLeft.toInt} score:{t.score} fif:{if foodAhead then 1 else 0}"

/-- A row of the board, with the ant's letter if it stands there. -/
def drawRow (t : Trial) (y : Nat) (cells : List Cell) : List Char :=
  cells.zipIdx.map fun (cell, x) =>
    if t.position = ⟨Int32.ofNat x, Int32.ofNat y⟩ then t.heading.letter else cell.glyph

/-- The status line and the board with the ant on it. -/
def draw (t : Trial) : Except Fault (List Char) := do
  let status := t.statusLine (← t.foodAhead)
  let rows := t.board.rows.zipIdx.flatMap fun (cells, y) => t.drawRow y cells ++ ['\n']
  return status.toList ++ '\n' :: rows

/-- The drawing of a trial. -/
def text (t : Trial) : Except Fault String := return String.ofList (← t.draw)

end Trial
end AntTrail
