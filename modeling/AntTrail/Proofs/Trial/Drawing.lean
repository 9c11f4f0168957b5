import AntTrail.Proofs.Board.Store
import AntTrail.Proofs.Course.Budget
import AntTrail.Proofs.Trial.Food

/-!
# What a drawing shows

A board is drawn line by line, and the cell of a position is drawn after as many line ends as
there are rows above it and, since the last of them, as many characters as there are columns
before it (`Board.Found`). The drawing of a trial has the ant's letter in just that place and
leaves all else as it is on the board (`Trial.picture_eq`). An ant never leaves the board, so
the letter is always there, and as no cell looks like one, it is there once
(`Trial.countP_letters`).
-/
namespace AntTrail

/-! ## Lists with places -/

section
variable {α β : Type} {f : α × Nat → List β} {g : α → List β}

theorem exists_append_of_getElem? {l : List α} {i : Nat} {a : α} (h : l[i]? = some a) :
    ∃ front back, l = front ++ a :: back ∧ front.length = i := by
  obtain ⟨hlt, rfl⟩ := List.getElem?_eq_some_iff.mp h
  refine ⟨l.take i, l.drop (i + 1), ?_, List.length_take_of_le (Nat.le_of_lt hlt)⟩
  rw [← List.drop_eq_getElem_cons hlt, List.take_append_drop]

theorem flatMap_zipIdx {l : List α} {n : Nat} (h : ∀ p ∈ l.zipIdx n, f p = g p.1) :
    (l.zipIdx n).flatMap f = l.flatMap g := by
  rw [List.flatMap_congr h, ← List.flatMap_map, List.zipIdx_map_fst]

/-- Where a function of elements and their places sees the place of one element only, it
differs there only. -/
theorem flatMap_zipIdx_append {front back : List α} {a : α}
    (h : ∀ p ∈ (front ++ a :: back).zipIdx, p.2 ≠ front.length → f p = g p.1) :
    (front ++ a :: back).zipIdx.flatMap f =
      front.flatMap g ++ (f (a, front.length) ++ back.flatMap g) := by
  rw [List.zipIdx_append, List.zipIdx_cons, Nat.zero_add] at h ⊢
  rw [List.flatMap_append, List.flatMap_cons, flatMap_zipIdx, flatMap_zipIdx]
  · intro p hp
    refine h p (List.mem_append_right _ (List.mem_cons_of_mem _ hp)) ?_
    have := (List.mem_zipIdx hp).1
    omega
  · intro p hp
    refine h p (List.mem_append_left _ hp) ?_
    have := (List.mem_zipIdx hp).2.1
    omega

end

/-! ## Boards -/

theorem Cell.glyph_ne_newline (c : Cell) : c.glyph ≠ '\n' := by cases c <;> decide

/-- The letters that stand for ants. -/
def Heading.letters : List Char := clockwise.map letter

theorem Heading.letter_mem (h : Heading) : h.letter ∈ letters := by cases h <;> decide

theorem Cell.glyph_not_mem_letters (c : Cell) : c.glyph ∉ Heading.letters := by
  cases c <;> decide

/-- How many characters there are since the last line end. -/
def Text.column (text : List Char) : Nat := (text.reverse.takeWhile (· ≠ '\n')).length

namespace Board

variable {b : Board} {p : Position}

/-- The drawing of a row. -/
def line (cells : List Cell) : List Char := cells.map Cell.glyph ++ ['\n']

theorem draw_eq (b : Board) : b.draw = b.rows.flatMap line := rfl

theorem not_mem_letters_of_mem_draw {ch : Char} (h : ch ∈ b.draw) : ch ∉ Heading.letters := by
  obtain ⟨cells, -, hch⟩ := List.mem_flatMap.mp h
  rcases List.mem_append.mp hch with hch | hch
  · obtain ⟨c, -, rfl⟩ := List.mem_map.mp hch
    exact c.glyph_not_mem_letters
  · obtain rfl := List.mem_singleton.mp hch
    decide

theorem count_newline_map_glyph (cells : List Cell) : (cells.map Cell.glyph).count '\n' = 0 := by
  rw [List.count_eq_zero, List.mem_map]
  rintro ⟨c, -, hc⟩
  exact c.glyph_ne_newline hc

/-- Each row is drawn as one line. -/
theorem count_newline_lines (rows : List (List Cell)) :
    (rows.flatMap line).count '\n' = rows.length := by
  induction rows with
  | nil => rfl
  | cons cells rows ih =>
    rw [List.flatMap_cons, List.count_append, ih, line, List.count_append,
      count_newline_map_glyph, List.count_singleton_self, List.length_cons]
    omega

theorem column_lines (rows : List (List Cell)) (cells : List Cell) :
    Text.column (rows.flatMap line ++ cells.map Cell.glyph) = cells.length := by
  have hcells : ∀ ch ∈ (cells.map Cell.glyph).reverse, decide (ch ≠ '\n') = true := by
    intro ch hch
    obtain ⟨c, -, rfl⟩ := List.mem_map.mp (List.mem_reverse.mp hch)
    exact decide_eq_true c.glyph_ne_newline
  have hrows : (rows.flatMap line).reverse.takeWhile (· ≠ '\n') = [] := by
    rcases List.eq_nil_or_concat rows with rfl | ⟨above, last, rfl⟩
    · rfl
    · simp [line]
  rw [Text.column, List.reverse_append, List.takeWhile_append_of_pos hcells, hrows, List.append_nil,
    List.length_reverse, List.length_map]

/-- Where the cell of a position is drawn. Its row is the number of line ends before it and
its column that of the characters since the last of them. -/
structure Found (b : Board) (p : Position) (front : List Char) (c : Cell) (back : List Char) :
    Prop where
  draw_eq : b.draw = front ++ c.glyph :: back
  row : (front.count '\n' : Int) = p.y.toInt
  column : (Text.column front : Int) = p.x.toInt
  get : b.get p = .ok c

/-- The rows around the cell of a position, and the cells around it in its own row. -/
theorem exists_split (hb : b.Roomy) (hp : b.Holds p) :
    ∃ above left c right below, b.rows = above ++ (left ++ c :: right) :: below ∧
      (above.length : Int) = p.y.toInt ∧ (left.length : Int) = p.x.toInt ∧ b.get p = .ok c := by
  obtain ⟨row, c, hrow, hc, hget⟩ := (tabulated hb).get p hp
  obtain ⟨above, below, hrows, habove⟩ := exists_append_of_getElem? hrow
  obtain ⟨left, right, rfl, hleft⟩ := exists_append_of_getElem? hc
  have hx := hp.x_nonneg
  have hy := hp.y_nonneg
  exact ⟨above, left, c, right, below, hrows, by omega, by omega, hget⟩

end Board

/-! ## Trials -/

namespace Trial

variable {t : Trial}

/-- The board of a trial with the ant on it. -/
def picture (t : Trial) : List Char :=
  t.board.rows.zipIdx.flatMap fun (cells, y) => t.drawRow y cells ++ ['\n']

theorem drawRow_eq (t : Trial) (y : Nat) (cells : List Cell) :
    t.drawRow y cells = cells.zipIdx.flatMap fun p =>
      [if t.position = ⟨Int32.ofNat p.2, Int32.ofNat y⟩ then t.heading.letter else p.1.glyph] :=
  List.map_eq_flatMap

/-- A coordinate is that of one row or column only. -/
theorem ne_ofNat {a : Int32} {m n : Nat} (ha : (m : Int) = a.toInt) (hn : n < 2147483648)
    (hne : n ≠ m) : a ≠ Int32.ofNat n := by
  rintro rfl
  rw [Int32.toInt_ofNat_of_lt hn] at ha
  omega

theorem eq_ofNat {a : Int32} {m : Nat} (ha : (m : Int) = a.toInt) : a = Int32.ofNat m := by
  have := a.toInt_lt
  rw [← Int32.toInt_inj, Int32.toInt_ofNat_of_lt (by omega), ha]

/-- A row without the ant is drawn as on the board. -/
theorem drawRow_of_ne {y : Nat} (h : t.position.y ≠ Int32.ofNat y) (cells : List Cell) :
    t.drawRow y cells = cells.map Cell.glyph := by
  rw [drawRow_eq, List.map_eq_flatMap]
  refine flatMap_zipIdx fun p _ => ?_
  rw [if_neg fun e => h (congrArg Position.y e)]

/-- In the row with the ant its letter stands for one cell. -/
theorem drawRow_here {y : Nat} {left right : List Cell} {c : Cell}
    (hy : (y : Int) = t.position.y.toInt) (hx : (left.length : Int) = t.position.x.toInt)
    (hlen : (left ++ c :: right).length ≤ 2147483648) :
    t.drawRow y (left ++ c :: right) =
      left.map Cell.glyph ++ t.heading.letter :: right.map Cell.glyph := by
  rw [drawRow_eq, List.map_eq_flatMap, List.map_eq_flatMap, flatMap_zipIdx_append]
  · have hhere : t.position = ⟨Int32.ofNat left.length, Int32.ofNat y⟩ := by
      rw [← eq_ofNat hx, ← eq_ofNat hy]
    rw [if_pos hhere]
    rfl
  · intro p hp hne
    have hlt := (List.mem_zipIdx hp).2.1
    have hcol : t.position.x ≠ Int32.ofNat p.2 := ne_ofNat hx (by omega) hne
    rw [if_neg fun e => hcol (congrArg Position.x e)]

/-- The picture is the drawing of the board with the letter of the ant where its cell is. -/
theorem picture_eq (hb : t.board.Roomy) (hp : t.Placed) :
    ∃ front c back, t.board.Found t.position front c back ∧
      t.picture = front ++ t.heading.letter :: back := by
  obtain ⟨above, left, c, right, below, hrows, hy, hx, hget⟩ := Board.exists_split hb hp
  have htab := Board.tabulated hb
  have hheight := htab.length_rows
  have hwidth : (left ++ c :: right).length = t.board.columns :=
    htab.length_row _ (hrows ▸ by simp)
  have hw := t.board.natCast_columns
  have hh := t.board.natCast_rowCount
  have hw' := t.board.width.toInt_lt
  have hh' := t.board.height.toInt_lt
  refine ⟨above.flatMap Board.line ++ left.map Cell.glyph, c,
    right.map Cell.glyph ++ '\n' :: below.flatMap Board.line, ⟨?_, ?_, ?_, hget⟩, ?_⟩
  · rw [Board.draw_eq, hrows, List.flatMap_append, List.flatMap_cons]
    simp [Board.line]
  · rw [List.count_append, Board.count_newline_lines, Board.count_newline_map_glyph,
      Nat.add_zero, hy]
  · rw [Board.column_lines, hx]
  · have hletter := drawRow_here hy hx (by omega : (left ++ c :: right).length ≤ 2147483648)
    rw [picture, hrows, flatMap_zipIdx_append (g := Board.line)]
    · dsimp only
      rw [hletter]
      simp
    · rintro ⟨cells, y⟩ hmem hne
      have hlt := (List.mem_zipIdx hmem).2.1
      rw [← hrows, hheight] at hlt
      have hrow : t.position.y ≠ Int32.ofNat y := ne_ofNat hy (by omega) hne
      show t.drawRow y cells ++ ['\n'] = _
      rw [drawRow_of_ne hrow]
      rfl

/-- Cells do not look like ants, so there is one letter in the picture. -/
theorem countP_letters {front back : List Char} {c : Cell}
    (h : t.board.Found t.position front c back) :
    (front ++ t.heading.letter :: back).countP (· ∈ Heading.letters) = 1 := by
  have hnone : ∀ ch ∈ front ++ back, ¬decide (ch ∈ Heading.letters) = true := by
    intro ch hch
    rw [decide_eq_true_iff]
    refine Board.not_mem_letters_of_mem_draw (b := t.board) ?_
    rw [h.draw_eq]
    rcases List.mem_append.mp hch with hch | hch
    · exact List.mem_append_left _ hch
    · exact List.mem_append_right _ (List.mem_cons_of_mem _ hch)
  have hzero := List.countP_eq_zero.mpr hnone
  have hone : (t.heading.letter :: back).countP (· ∈ Heading.letters) =
      back.countP (· ∈ Heading.letters) + 1 :=
    List.countP_cons_of_pos (decide_eq_true t.heading.letter_mem)
  rw [List.countP_append] at hzero ⊢
  omega

/-- Above the picture stand the steps that are left, the score, and whether there is food
ahead. -/
theorem text_eq {food : Bool} (h : t.foodAhead = .ok food) :
    t.text = .ok ("steps:" ++ toString t.stepsLeft.toInt ++ " score:" ++ toString t.score ++
      " fif:" ++ (if food then "1" else "0") ++ "\n" ++ String.ofList t.picture) := by
  have hstatus : t.statusLine food = "steps:" ++ toString t.stepsLeft.toInt ++ " score:" ++
      toString t.score ++ " fif:" ++ (if food then "1" else "0") := by
    cases food with
    | false => rfl
    | true => rfl
  have hdraw : t.draw = .ok ((t.statusLine food).toList ++ '\n' :: t.picture) := by
    rw [draw, h]
    rfl
  rw [text, hdraw, ← hstatus]
  refine congrArg Except.ok (String.toList_inj.mp ?_)
  simp

/-- The drawing of a trial shows its state and nothing else. Wherever an ant has got to on a
board with sides of at most `2^30`, the drawing can be made. It is a line with the steps that
are left, the score and whether there is food ahead, and below it the drawing of the board in
which one character, that of the cell in the row and the column of the ant, is replaced by
the letter of its heading; no other character there is such a letter. -/
theorem text_shows {board : Board} (hb : board.Roomy) {settings : TrialSettings} {total : Int32}
    {t₀ : Trial} {rs : List Request} {j : Journey}
    (hstart : start board settings total = .ok t₀) (hrun : (Journey.begin t₀).run rs = .ok j) :
    ∃ food front c back, j.trial.foodAhead = .ok food ∧
      j.trial.text = .ok ("steps:" ++ toString j.trial.stepsLeft.toInt ++
        " score:" ++ toString j.trial.score ++ " fif:" ++ (if food then "1" else "0") ++ "\n" ++
        String.ofList (front ++ j.trial.heading.letter :: back)) ∧
      j.trial.board.text = String.ofList (front ++ c.glyph :: back) ∧
      j.trial.board.Found j.trial.position front c back ∧
      (front ++ j.trial.heading.letter :: back).countP (· ∈ Heading.letters) = 1 := by
  obtain ⟨hsound, -⟩ := (Journey.Sound.begin hstart).run hrun
  have hb' : j.trial.board.Roomy := hsound.accounts.shape ▸ hb
  obtain ⟨food, hfood⟩ := foodAhead_ok hb' hsound.placed
  obtain ⟨front, c, back, hfound, hpicture⟩ := picture_eq hb' hsound.placed
  refine ⟨food, front, c, back, hfood, ?_, ?_, hfound, countP_letters hfound⟩
  · rw [text_eq hfood, hpicture]
  · rw [Board.text, hfound.draw_eq]

/-- The ant has gone on from the food of its first cell, and sees the other food over the
edge. -/
theorem text_shows_patch :
    ∃ t₀ j front back, Course.patch.Roomy ∧ start Course.patch { maxSteps := 9 } 2 = .ok t₀ ∧
      (Journey.begin t₀).run [.act .move, .look, .act .turnLeft] = .ok j ∧
      j.trial.text = .ok "steps:7 score:1 fif:1\n*N\n O\n" ∧
      j.trial.board.Found j.trial.position front .empty back ∧
      (front ++ 'N' :: back).countP (· ∈ Heading.letters) = 1 := by
  have hb : Course.patch.Roomy := ⟨by decide, by decide⟩
  have hrun : ((start Course.patch { maxSteps := 9 } 2 >>= fun t =>
      (Journey.begin t).run [.act .move, .look, .act .turnLeft]).map fun j =>
        (j.trial.heading, (j.trial.board.get j.trial.position).toOption,
          j.trial.draw.toOption)).toOption =
      some (.north, some .empty, some "steps:7 score:1 fif:1\n*N\n O\n".toList) := by
    decide +kernel
  obtain ⟨j, h, hj⟩ := map_eq_ok.mp (eq_ok_of_toOption hrun)
  obtain ⟨t₀, hstart, hrun⟩ := bind_eq_ok.mp h
  obtain ⟨hheading, hj⟩ := Prod.mk.inj hj
  obtain ⟨hget, hdraw⟩ := Prod.mk.inj hj
  have hget := eq_ok_of_toOption hget
  have htext : j.trial.text = .ok "steps:7 score:1 fif:1\n*N\n O\n" := by
    rw [text, eq_ok_of_toOption hdraw, ok_bind, String.ofList_toList]
    rfl
  obtain ⟨food, front, c, back, -, -, -, hfound, hone⟩ := text_shows hb hstart hrun
  obtain rfl : c = .empty := Except.ok.inj (hfound.get.symm.trans hget)
  rw [hheading] at hone
  exact ⟨t₀, j, front, back, hb, hstart, hrun, htext, hfound, hone⟩

end Trial
end AntTrail
