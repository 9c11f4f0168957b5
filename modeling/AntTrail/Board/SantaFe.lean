import AntTrail.Board.Text

/-!
The Santa Fe trail: 89 pieces of food on 32 by 32 cells.
-/
namespace AntTrail.Board

/-- The rows of the trail. `X` is food; a dot is a gap in the trail, and empty. -/
def santaFeRows : List String :=
  [" XXX                            ",
   "   X                            ",
   "   X                    .XXX..  ",
   "   X                    X    X  ",
   "   X                    X    X  ",
   "   XXXX.XXXXX       .XX..    .  ",
   "            X       .        X  ",
   "            X       X        .  ",
   "            X       X        .  ",
   "            X       X        X  ",
   "            .       X        .  ",
   "            X       .        .  ",
   "            X       .        X  ",
   "            X       X        .  ",
   "            X       X  ...XXX.  ",
   "            .   .X...  X        ",
   "            .   .      .        ",
   "            X   .      .        ",
   "            X   X      .X...    ",
   "            X   X          X    ",
   "            X   X          .    ",
   "            X   X          .    ",
   "            X   .      ...X.    ",
   "            X   .      X        ",
   " ..XX..XXXXX.   X               ",
   " X              X               ",
   " X              X               ",
   " X     .XXXXXXX..               ",
   " X     X                        ",
   " .     X                        ",
   " .XXXX..                        ",
   "                                "]

/-- The Santa Fe trail. -/
def santaFe : Board where
  width := 32
  height := 32
  width_pos := by decide
  height_pos := by decide
  area_lt := by decide
  cells := (santaFeRows.flatMap fun row => row.toList.map Cell.ofMark).toArray
  size_eq := by decide +kernel

end AntTrail.Board
