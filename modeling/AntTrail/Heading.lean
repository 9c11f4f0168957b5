import AntTrail.Checked

/-!
The four directions in which an ant can face.
-/
namespace AntTrail

/-- A direction of the compass. -/
inductive Heading where
  | north
  | east
  | south
  | west
deriving DecidableEq, Repr

namespace Heading

/-- The headings in clockwise order. -/
def clockwise : List Heading := [north, east, south, west]

/-- The cell ahead, relative to the ant: columns grow eastwards and rows southwards. -/
def delta : Heading → Int32 × Int32
  | north => (0, -1)
  | east => (1, 0)
  | south => (0, 1)
  | west => (-1, 0)

/-- A quarter turn clockwise. -/
def right : Heading → Heading
  | north => east
  | east => south
  | south => west
  | west => north

/-- A quarter turn counter-clockwise. -/
def left : Heading → Heading
  | north => west
  | east => north
  | south => east
  | west => south

/-- The letter that stands for an ant in a drawing. -/
def letter : Heading → Char
  | north => 'N'
  | east => 'E'
  | south => 'S'
  | west => 'W'

/-- The name of a heading in a settings file. -/
def name : Heading → String
  | north => "North"
  | east => "East"
  | south => "South"
  | west => "West"

@[simp] theorem left_right (h : Heading) : h.right.left = h := by cases h <;> rfl

@[simp] theorem right_left (h : Heading) : h.left.right = h := by cases h <;> rfl

end Heading
end AntTrail
