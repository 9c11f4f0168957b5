import AntTrail.Position

/-!
Boards: the cells of a torus, and the food on them.

The cells stand in one array, row after row. `Board.get` and `Board.set` take any
position and wrap it; the edges of a board are joined. `Board.rows` cuts the array into
pieces as long as the board is wide.
-/
namespace AntTrail

/-- What a cell holds. -/
inductive Cell where
  | empty
  | food
  /-- Food that has been eaten. -/
  | eaten
deriving DecidableEq, Repr, Inhabited

/-- The character that shows a cell. -/
def Cell.glyph : Cell → Char
  | empty => ' '
  | food => 'O'
  | eaten => '*'

/-- Why there is no such board. -/
inductive BoardError where
  | notPositive (width height : Int)
  /-- The number of cells is beyond a 32-bit integer. -/
  | tooManyCells (width height : Int)
  /-- A text with fewer lines than the board has rows. -/
  | missingLine (height : Int) (found : Nat)
  /-- A line, counted from one, of the wrong length. -/
  | lineLength (line length : Nat) (width : Int)
  /-- Text on a line after the last row. -/
  | extraLine (line : Nat)
deriving DecidableEq, Repr

/-- The text that says why. -/
def BoardError.message (e : BoardError) : String :=
  "Board format error: " ++ match e with
    | notPositive width height => s!"board dimensions must be positive, got {width}x{height}"
    | tooManyCells width height => s!"board {width}x{height} has too many cells"
    | missingLine height found => s!"expected {height} lines, found {found}"
    | lineLength line length width => s!"line {line} has {length} characters, expected {width}"
    | extraLine line => s!"unexpected content on line {line} after the last board row"

/-- The sides of a board: neither is empty, and the number of cells is a 32-bit
integer. -/
structure Shape where
  width : Int32
  height : Int32
  width_pos : 0 < width.toInt
  height_pos : 0 < height.toInt
  area_lt : width.toInt * height.toInt < 2147483648
deriving DecidableEq

namespace Shape

/-- The number of columns. -/
def columns (s : Shape) : Nat := s.width.toInt.toNat

/-- The number of rows. -/
def rowCount (s : Shape) : Nat := s.height.toInt.toNat

/-- The shape with the given sides. -/
def ofSides (width height : Int32) : Except BoardError Shape :=
  if hp : width.toInt ≤ 0 ∨ height.toInt ≤ 0 then .error (.notPositive width.toInt height.toInt)
  else if ha : width.toInt * height.toInt < 2147483648 then
    .ok ⟨width, height, by omega, by omega, ha⟩
  else .error (.tooManyCells width.toInt height.toInt)

end Shape

/-- The first `count` pieces of a list, `n` elements in each. The last piece of the list
has what is left. -/
def chunksWithin {α : Type} (n : Nat) : (count : Nat) → List α → List (List α)
  | 0, _ => []
  | _ + 1, [] => []
  | count + 1, a :: as => (a :: as).take n :: chunksWithin n count ((a :: as).drop n)

/-- The pieces of a list, `n` elements in each. There are no more of them than elements. -/
def chunksOf {α : Type} (n : Nat) (l : List α) : List (List α) := chunksWithin n l.length l

/-- A board: a shape and its cells, row after row. -/
structure Board extends Shape where
  cells : Array Cell
  size_eq : cells.size = toShape.rowCount * toShape.columns
deriving DecidableEq

namespace Board

/-- A board without food. -/
def blank (width height : Int32) : Except BoardError Board := do
  let shape ← Shape.ofSides width height
  return { shape with
    cells := Array.replicate (shape.rowCount * shape.columns) .empty
    size_eq := Array.size_replicate }

/-- The place of a position's cell in the array. -/
def index (b : Board) (p : Position) : Except Fault Nat := do
  let q ← p.wrap b.width b.height
  return q.y.toInt.toNat * b.columns + q.x.toInt.toNat

/-- The cell at a position. -/
def get (b : Board) (p : Position) : Except Fault Cell := do
  let i ← b.index p
  if h : i < b.cells.size then return b.cells[i]
  else throw (.outOfBounds b.cells.size i)

/-- The board with another cell at a position. -/
def set (b : Board) (p : Position) (c : Cell) : Except Fault Board := do
  let i ← b.index p
  if h : i < b.cells.size then
    return { b with
      cells := b.cells.set i c
      size_eq := (Array.size_set ..).trans b.size_eq }
  else throw (.outOfBounds b.cells.size i)

/-- The number of cells with food. -/
def foodCount (b : Board) : Nat := b.cells.count .food

/-- The rows from north to south. -/
def rows (b : Board) : List (List Cell) := chunksOf b.columns b.cells.toList

/-- The drawing of a board, a line for each row. -/
def draw (b : Board) : List Char := b.rows.flatMap fun cells => cells.map Cell.glyph ++ ['\n']

/-- The drawing of a board. -/
def text (b : Board) : String := String.ofList b.draw

end Board
end AntTrail
