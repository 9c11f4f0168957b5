import AntTrail.Board
import AntTrail.Text.Split

/-!
Reading a board from text.

There is a line for each row, with a character for each column: `X` is food and
anything else an empty cell. After the last row there may be blank lines.
-/
namespace AntTrail

/-- The cell for which a character stands. -/
def Cell.ofMark (c : Char) : Cell := if c = 'X' then .food else .empty

namespace Board

/-- The cells of `rows` more rows, and the lines after them; `above` rows have
been read. -/
def readRows (s : Shape) : (rows above : Nat) → List (List Char) →
    Except BoardError (List Cell × List (List Char))
  | 0, _, rest => .ok ([], rest)
  | _ + 1, above, [] => .error (.missingLine s.height.toInt above)
  | rows + 1, above, line :: rest =>
    if line.length = s.columns then
      match readRows s rows (above + 1) rest with
      | .ok (cells, rest) => .ok (line.map Cell.ofMark ++ cells, rest)
      | .error e => .error e
    else .error (.lineLength (above + 1) line.length s.width.toInt)

theorem length_readRows {s : Shape} {rows above : Nat} {lines rest : List (List Char)}
    {cells : List Cell} (h : readRows s rows above lines = .ok (cells, rest)) :
    cells.length = rows * s.columns := by
  induction rows generalizing above lines cells rest with
  | zero =>
    simp only [readRows, Except.ok.injEq, Prod.mk.injEq] at h
    simp [← h.1]
  | succ rows ih =>
    cases lines with
    | nil => cases h
    | cons line lines =>
      unfold readRows at h
      split at h
      · next hlen =>
        split at h
        · next cells' rest' hrest =>
          simp only [Except.ok.injEq, Prod.mk.injEq] at h
          rw [← h.1, List.length_append, List.length_map, hlen, ih hrest, Nat.succ_mul,
            Nat.add_comm]
        · cases h
      · cases h

/-- Reads a board of the given sides from text. -/
def ofText (text : String) (width height : Int32) : Except BoardError Board :=
  match Shape.ofSides width height with
  | .error e => .error e
  | .ok s =>
    match h : readRows s s.rowCount 0 (Text.lines text.toList) with
    | .error e => .error e
    | .ok (cells, rest) =>
      match rest.findIdx? fun line => !Text.allBlank line with
      | some i => .error (.extraLine (s.rowCount + i + 1))
      | none => .ok { s with
          cells := cells.toArray
          size_eq := by rw [List.size_toArray]; exact length_readRows h }

end Board
end AntTrail
