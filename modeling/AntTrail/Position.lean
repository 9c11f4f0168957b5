import AntTrail.Heading

/-!
Cells of a board by column and row, and how a board's edges are joined.

A board is a torus: the column after the last is the first, and so for rows.
`Position.wrap` brings any position onto the board; it computes the remainder,
adds the size and takes the remainder again, so for a size above `2^30` the sum
itself can leave the range of a coordinate.
-/
namespace AntTrail

/-- A cell by column `x` and row `y`, on the board or off it. -/
structure Position where
  x : Int32 := 0
  y : Int32 := 0
deriving DecidableEq, Repr

namespace Position

/-- The position `dx` columns east and `dy` rows south. -/
def shift (p : Position) (dx dy : Int32) : Except Fault Position := do
  let x ← Checked.add p.x dx
  let y ← Checked.add p.y dy
  return ⟨x, y⟩

/-- A coordinate brought into `[0, size)`. -/
def wrapCoordinate (n size : Int32) : Except Fault Int32 := do
  let r ← Checked.rem n size
  let s ← Checked.add r size
  Checked.rem s size

/-- The cell of a `width` by `height` torus that a position denotes. -/
def wrap (p : Position) (width height : Int32) : Except Fault Position := do
  let x ← wrapCoordinate p.x width
  let y ← wrapCoordinate p.y height
  return ⟨x, y⟩

/-- The neighbouring cell in direction `heading`, on the torus. -/
def step (p : Position) (heading : Heading) (width height : Int32) : Except Fault Position := do
  let q ← p.shift heading.delta.1 heading.delta.2
  q.wrap width height

/-- A position as text: `(x, y)`. -/
def text (p : Position) : String := s!"({p.x.toInt}, {p.y.toInt})"

end Position
end AntTrail
