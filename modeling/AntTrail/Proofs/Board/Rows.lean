import AntTrail.Proofs.Board.Torus

/-!
# Rows

Pieces of equal length are found again after they have been put together
(`chunksOf_flatten`), and what is cut into pieces can be put together again
(`flatten_chunksOf`). The number of cells of a board is that of its rows times that of its
columns (`Board.size_eq`), so that its cells come out even when they are cut into rows:
each row is as long as the board is wide (`Board.length_of_mem_rows`), and there are as
many as it is high (`Board.length_rows`).
-/
namespace AntTrail

/-! ## Pieces of a list -/

section
variable {α : Type} {n count : Nat} {l : List α}

theorem flatten_chunksWithin (hn : 0 < n) (h : l.length ≤ count) :
    (chunksWithin n count l).flatten = l := by
  induction count generalizing l with
  | zero =>
    obtain rfl := List.eq_nil_of_length_eq_zero (Nat.le_zero.mp h)
    rfl
  | succ count ih =>
    cases l with
    | nil => rfl
    | cons a as =>
      have hrest : ((a :: as).drop n).length ≤ count := by
        rw [List.length_drop]
        omega
      rw [chunksWithin, List.flatten_cons, ih hrest, List.take_append_drop]

theorem flatten_chunksOf (hn : 0 < n) (l : List α) : (chunksOf n l).flatten = l :=
  flatten_chunksWithin hn (Nat.le_refl _)

/-- Where the elements come out even, no piece is shorter than the others. -/
theorem length_of_mem_chunksWithin {k : Nat} (hl : l.length = k * n) {piece : List α}
    (h : piece ∈ chunksWithin n count l) : piece.length = n := by
  induction count generalizing k l with
  | zero => cases h
  | succ count ih =>
    cases l with
    | nil => cases h
    | cons a as =>
      cases k with
      | zero =>
        rw [Nat.zero_mul] at hl
        cases hl
      | succ k =>
        rw [Nat.succ_mul] at hl
        rcases List.mem_cons.mp h with rfl | h
        · rw [List.length_take, hl, Nat.min_eq_left (Nat.le_add_left ..)]
        · refine ih (k := k) ?_ h
          rw [List.length_drop, hl, Nat.add_sub_cancel]

end

section
variable {α : Type} {n : Nat} {rows : List (List α)} (hrows : ∀ row ∈ rows, row.length = n)
include hrows

theorem length_flatten_of_length : rows.flatten.length = rows.length * n := by
  induction rows with
  | nil => rw [List.length_nil, Nat.zero_mul, List.flatten_nil, List.length_nil]
  | cons row rows ih =>
    obtain ⟨hrow, hrows⟩ := List.forall_mem_cons.mp hrows
    rw [List.flatten_cons, List.length_append, List.length_cons, ih hrows, hrow, Nat.succ_mul,
      Nat.add_comm]

/-- A row begins at a multiple of the length that all have. -/
theorem drop_flatten (y : Nat) : rows.flatten.drop (y * n) = (rows.drop y).flatten := by
  induction y generalizing rows with
  | zero => rw [Nat.zero_mul, List.drop_zero, List.drop_zero]
  | succ y ih =>
    cases rows with
    | nil => exact List.drop_nil
    | cons row rows =>
      obtain ⟨hrow, hrows⟩ := List.forall_mem_cons.mp hrows
      rw [List.flatten_cons, Nat.succ_mul, Nat.add_comm, ← hrow, List.drop_length_add_append, hrow,
        ih hrows, List.drop_succ_cons]

theorem getElem?_flatten {x y : Nat} {row : List α} (hrow : rows[y]? = some row) (hx : x < n) :
    rows.flatten[y * n + x]? = row[x]? := by
  obtain ⟨hlt, rfl⟩ := List.getElem?_eq_some_iff.mp hrow
  rw [← List.getElem?_drop, drop_flatten hrows, List.drop_eq_getElem_cons hlt, List.flatten_cons,
    List.getElem?_append_left (by rwa [hrows _ (List.getElem_mem hlt)])]

/-- Putting pieces together and cutting again finds them. -/
theorem chunksWithin_flatten (hn : 0 < n) {count : Nat} (h : rows.length ≤ count) :
    chunksWithin n count rows.flatten = rows := by
  induction rows generalizing count with
  | nil => cases count <;> rfl
  | cons row rows ih =>
    obtain ⟨hrow, hrest⟩ := List.forall_mem_cons.mp hrows
    obtain ⟨a, as, rfl⟩ := List.exists_cons_of_length_pos (hrow ▸ hn)
    cases count with
    | zero => cases h
    | succ count =>
      rw [List.flatten_cons, List.cons_append, chunksWithin, ← List.cons_append,
        List.take_left' hrow, List.drop_left' hrow, ih hrest (Nat.le_of_succ_le_succ h)]

theorem chunksOf_flatten (hn : 0 < n) : chunksOf n rows.flatten = rows := by
  refine chunksWithin_flatten hrows hn ?_
  rw [length_flatten_of_length hrows]
  exact Nat.le_mul_of_pos_right _ hn

end

/-! ## Boards -/

namespace Board

variable {b : Board}

theorem columns_pos (b : Board) : 0 < b.columns := by
  have := b.natCast_columns
  have := b.width_pos
  omega

/-- Row after row, the rows have all cells of the board. -/
theorem flatten_rows (b : Board) : b.rows.flatten = b.cells.toList :=
  flatten_chunksOf b.columns_pos _

theorem length_of_mem_rows {row : List Cell} (h : row ∈ b.rows) : row.length = b.columns :=
  length_of_mem_chunksWithin (Array.length_toList.trans b.size_eq) h

theorem length_rows (b : Board) : b.rows.length = b.rowCount := by
  refine Nat.eq_of_mul_eq_mul_right b.columns_pos ?_
  rw [← length_flatten_of_length fun _ => length_of_mem_rows, flatten_rows, Array.length_toList,
    b.size_eq]

/-- A cell of the board stands in its row at its column. -/
theorem getElem?_rows {x y : Nat} {row : List Cell} (hrow : b.rows[y]? = some row)
    (hx : x < b.columns) : row[x]? = b.cells[y * b.columns + x]? := by
  rw [← getElem?_flatten (fun _ => length_of_mem_rows) hrow hx, flatten_rows,
    Array.getElem?_toList]

end Board
end AntTrail
