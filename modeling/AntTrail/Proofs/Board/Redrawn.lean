import AntTrail.Proofs.Board.Store

/-!
# Drawings are read back

A drawing has a line for each row, and lines that end with line feeds fall apart again as
they were (`Text.written_ended`). Drawings show food by another mark than texts of boards;
with that mark exchanged a drawing shows the board from which it was made
(`Board.shows_drawing`), but for the food that has been eaten, for which texts have no mark.
-/
namespace AntTrail

/-- Lines of which each ends with a line feed are found again. -/
theorem Text.written_ended {ls : List (List Char)} (h : ∀ line ∈ ls, Plain line) :
    Written (ls.flatMap (· ++ ['\n'])) ls := by
  induction ls with
  | nil => exact .none
  | cons line ls ih =>
    obtain ⟨hline, hrest⟩ := List.forall_mem_cons.mp h
    simpa using Written.cons (n := 0) hline (ih hrest)

namespace Cell

/-- What a cell is when it is not remembered that food has been eaten. -/
def swept : Cell → Cell
  | eaten => empty
  | c => c

/-- The character that stands for a cell in a text of a board. -/
def mark (c : Cell) : Char := if c.glyph = 'O' then 'X' else c.glyph

theorem ofMark_mark (c : Cell) : ofMark c.mark = c.swept := by cases c <;> rfl

theorem mark_ne (c : Cell) : c.mark ≠ '\n' ∧ c.mark ≠ '\r' := by cases c <;> decide

theorem swept_beq_food (c : Cell) : (c.swept == food) = (c == food) := by cases c <;> rfl

end Cell

namespace Board

variable {b : Board}

/-- A drawing with the mark for food that texts of boards have. -/
def exchangeMarks (drawing : String) : String :=
  String.ofList (drawing.toList.map fun c => if c = 'O' then 'X' else c)

/-- The board with empty cells where food has been eaten. -/
def swept (b : Board) : Board where
  toShape := b.toShape
  cells := b.cells.map Cell.swept
  size_eq := by rw [Array.size_map, b.size_eq]

theorem foodCount_swept (b : Board) : b.swept.foodCount = b.foodCount := by
  have hsame : ((· == Cell.food) ∘ Cell.swept) = (· == Cell.food) :=
    funext Cell.swept_beq_food
  simp only [foodCount, swept, Array.count, Array.countP_map, hsame]

theorem get_swept {p : Position} {c : Cell} (h : b.get p = .ok c) :
    b.swept.get p = .ok c.swept := by
  obtain ⟨i, hi, hc⟩ := get_eq_ok.mp h
  refine get_eq_ok.mpr ⟨i, (index_congr (b := b) rfl p).trans hi, ?_⟩
  simp [swept, hc]

/-! ## Marks exchanged -/

theorem toList_exchangeMarks (b : Board) :
    (exchangeMarks b.text).toList = (b.rows.map (·.map Cell.mark)).flatMap (· ++ ['\n']) := by
  simp only [exchangeMarks, text, draw, String.toList_ofList, List.map_flatMap,
    List.flatMap_map]
  refine List.flatMap_congr fun cells _ => ?_
  simp [Cell.mark]

theorem plain_map_mark (cells : List Cell) : Text.Plain (cells.map Cell.mark) where
  newline_not_mem := by
    intro h
    obtain ⟨c, -, hc⟩ := List.mem_map.mp h
    exact c.mark_ne.1 hc
  getLast?_ne := by
    intro h
    obtain ⟨c, -, hc⟩ := List.mem_map.mp (List.mem_of_getLast? h)
    exact c.mark_ne.2 hc

/-- A drawing with the other mark for food shows all rows of the board and nothing below. -/
theorem shows_drawing (b : Board) :
    Shows (exchangeMarks b.text) b.width b.height (b.rows.map (·.map Cell.mark)) [] where
  width_pos := b.width_pos
  height_pos := b.height_pos
  area_le := Int.le_of_lt_add_one b.area_lt
  written := by
    rw [toList_exchangeMarks, List.append_nil]
    refine Text.written_ended fun line hline => ?_
    obtain ⟨cells, -, rfl⟩ := List.mem_map.mp hline
    exact plain_map_mark cells
  length_rows := by rw [List.length_map, b.length_rows, b.natCast_rowCount]
  length_row := by
    intro line hline
    obtain ⟨cells, hcells, rfl⟩ := List.mem_map.mp hline
    rw [List.length_map, length_of_mem_rows hcells, b.natCast_columns]
  blank := List.forall_mem_nil _

/-- What is read is the board with its eaten food forgotten. -/
theorem ofText_exchangeMarks (b : Board) :
    ofText (exchangeMarks b.text) b.width b.height = .ok b.swept := by
  obtain ⟨b', hb'⟩ := (shows_drawing b).ofText_ok
  obtain ⟨lines, below, hshows, hwidth, hheight, hcells⟩ := shows_of_ofText hb'
  obtain ⟨rfl, -⟩ := hshows.unique (shows_drawing b)
  have hshape : b'.toShape = b.swept.toShape :=
    Except.ok.inj ((ofSides_eq_ok.mpr ⟨hwidth, hheight⟩).symm.trans (ofSides_eq_ok.mpr ⟨rfl, rfl⟩))
  have hswept : b'.cells.toList = b.swept.cells.toList := by
    rw [hcells, ← List.map_flatten, List.map_map, flatten_rows, swept, Array.toList_map]
    exact List.map_congr_left fun c _ => c.ofMark_mark
  rw [hb', eq_of_cells hshape (Array.toList_inj.mp hswept)]

/-- Drawings are read back. With sides of at most `2^30`, and whatever has been written to the
board, its drawing with food marked as in texts is a text of the board; reading it, also by
writing cell by cell into a blank board, gives a board of the same shape with the same cells,
but for empty ones where food has been eaten. So the food on both is the same. -/
theorem ofText_redrawn {b : Board} (hb : b.Roomy) :
    ∃ b', ofText (exchangeMarks b.text) b.width b.height = .ok b' ∧
      inscribe (exchangeMarks b.text) b.width b.height = .ok (.ok b') ∧
      b'.toShape = b.toShape ∧
      b'.cells = b.cells.map (fun c => if c = .eaten then .empty else c) ∧
      (∀ p, ∃ c, b.get p = .ok c ∧ b'.get p = .ok (if c = .eaten then .empty else c)) ∧
      b'.foodCount = b.foodCount := by
  have hswept : ∀ c : Cell, c.swept = if c = .eaten then .empty else c := by
    intro c
    cases c <;> rfl
  have hread := ofText_exchangeMarks b
  refine ⟨b.swept, hread, ?_, rfl, ?_, fun p => ?_, foodCount_swept b⟩
  · rw [inscribe_eq _ hb.width_le hb.height_le, hread]
  · exact congrArg (b.cells.map ·) (funext hswept)
  · obtain ⟨c, hc⟩ := get_ok (hb.clears p)
    exact ⟨c, hc, hswept c ▸ get_swept hc⟩

/-- A clearing that ends in blank rows; of two pieces of food one has been eaten. -/
def clearing : Board where
  width := 6
  height := 6
  width_pos := by decide
  height_pos := by decide
  area_lt := by decide
  cells := #[.eaten, .empty, .food] ++ Array.replicate 33 .empty
  size_eq := rfl

theorem ofText_redrawn_clearing :
    clearing.Roomy ∧
      clearing.text = "* O   \n      \n      \n      \n      \n      \n" ∧
      exchangeMarks clearing.text = "* X   \n      \n      \n      \n      \n      \n" ∧
      ∃ b', ofText "* X   \n      \n      \n      \n      \n      \n" 6 6 = .ok b' ∧
        b'.cells = #[.empty, .empty, .food] ++ Array.replicate 33 .empty ∧ b'.foodCount = 1 := by
  have hb : clearing.Roomy := ⟨by decide, by decide⟩
  have htext : clearing.text = "* O   \n      \n      \n      \n      \n      \n" := by decide
  have hmarks : exchangeMarks clearing.text =
      "* X   \n      \n      \n      \n      \n      \n" := by rw [htext]; decide
  obtain ⟨b', hread, -, -, hcells, -, hcount⟩ := ofText_redrawn hb
  rw [hmarks] at hread
  exact ⟨hb, htext, hmarks, b', hread, hcells.trans (by simp [clearing]), hcount⟩

end Board
end AntTrail
