import AntTrail.Board.Text
import AntTrail.Proofs.Board.Rows
import AntTrail.Proofs.Text.Lines

/-!
# Boards are read from exactly their format

A text shows a board of given sides (`Shows`) if it is written in lines, the first of which
are the rows and the others blank. `Board.ofText` reads just these texts, and from each the
board that its rows show (`ofText_shows`). It puts the cells together row by row; that a board
which is written into cell by cell, each food at its position, comes to the same
(`inscribe_eq`) needs wrapping to be harmless, and so sides of at most `2^30`.
-/
namespace AntTrail

namespace Board

variable {b b' : Board}

/-! ## Writing cell by cell -/

/-- The board after a character has been written at column `x` and row `y`. Only food is
written. -/
def inscribeCell (b : Board) (y x : Nat) (c : Char) : Except Fault Board :=
  if c = 'X' then b.set ⟨Int32.ofNat x, Int32.ofNat y⟩ .food else .ok b

/-- The board after a line, or what is left of it from column `x` on, has been written into
row `y`. -/
def inscribeLine (b : Board) (y : Nat) : (x : Nat) → List Char → Except Fault Board
  | _, [] => .ok b
  | x, c :: cs => do
    let b ← b.inscribeCell y x c
    inscribeLine b y (x + 1) cs

/-- The board after `rows` more rows have been written into it, and the lines after them. A
line of the wrong length, or one that is missing, is found when it is its turn. -/
def inscribeRows : (rows above : Nat) → List (List Char) → Board →
    Except Fault (Except BoardError (Board × List (List Char)))
  | 0, _, rest, b => .ok (.ok (b, rest))
  | _ + 1, above, [], b => .ok (.error (.missingLine b.height.toInt above))
  | rows + 1, above, line :: rest, b =>
    if line.length = b.columns then do
      inscribeRows rows (above + 1) rest (← b.inscribeLine above 0 line)
    else .ok (.error (.lineLength (above + 1) line.length b.width.toInt))

/-- Reads a board from text by writing into a blank one. -/
def inscribe (text : String) (width height : Int32) : Except Fault (Except BoardError Board) :=
  match blank width height with
  | .error e => .ok (.error e)
  | .ok b => do
    match ← inscribeRows b.rowCount 0 (Text.lines text.toList) b with
    | .error e => return .error e
    | .ok (b, rest) =>
      match rest.findIdx? fun line => !Text.allBlank line with
      | some i => return .error (.extraLine (b.rowCount + i + 1))
      | none => return .ok b

theorem eq_of_cells (hshape : b.toShape = b'.toShape) (h : b.cells = b'.cells) : b = b' := by
  obtain ⟨s, cells, hs⟩ := b
  obtain ⟨s', cells', hs'⟩ := b'
  cases hshape
  cases h
  rfl

end Board

namespace Shape

variable {s : Shape} {x y : Nat}

/-- A column and a row of the board, as a position. -/
theorem holds_ofNat (hx : x < s.columns) (hy : y < s.rowCount) :
    s.Holds ⟨Int32.ofNat x, Int32.ofNat y⟩ ∧
      s.place ⟨Int32.ofNat x, Int32.ofNat y⟩ = y * s.columns + x := by
  have hw := s.natCast_columns
  have hh := s.natCast_rowCount
  have hw' := s.width.toInt_lt
  have hh' := s.height.toInt_lt
  have ex : (Int32.ofNat x).toInt = x := Int32.toInt_ofNat_of_lt (by omega)
  have ey : (Int32.ofNat y).toInt = y := Int32.toInt_ofNat_of_lt (by omega)
  refine ⟨by constructor <;> dsimp only <;> omega, ?_⟩
  rw [place, ex, ey, Int.toNat_natCast, Int.toNat_natCast]

end Shape

namespace Board

variable {b b' : Board} {x y : Nat}

/-- Writing a cell of the board itself never breaks off. -/
theorem set_of_holds (hb : b.Roomy) {p : Position} (hp : b.Holds p) (c : Cell) :
    ∃ b', b.set p c = .ok b' ∧ b'.toShape = b.toShape ∧
      b'.cells = b.cells.setIfInBounds (b.place p) c := by
  obtain ⟨i, hi⟩ := index_ok (hb.clears p)
  obtain ⟨b', hset⟩ := set_ok hi c
  obtain ⟨j, hj, hshape, hcells⟩ := set_eq_ok hset
  rw [index_of_holds hp hj] at hcells
  exact ⟨b', hset, hshape, hcells⟩

/-- A character is written where the cell has been blank. -/
theorem inscribeCell_ok {front back : List Cell} (hb : b.Roomy) (hx : x < b.columns)
    (hy : y < b.rowCount) (hfront : front.length = y * b.columns + x)
    (hcells : b.cells.toList = front ++ .empty :: back) (c : Char) :
    ∃ b', b.inscribeCell y x c = .ok b' ∧ b'.toShape = b.toShape ∧
      b'.cells.toList = front ++ Cell.ofMark c :: back := by
  unfold inscribeCell Cell.ofMark
  split
  · obtain ⟨hp, hplace⟩ := Shape.holds_ofNat hx hy
    obtain ⟨b', hset, hshape, hcells'⟩ := set_of_holds hb hp .food
    refine ⟨b', hset, hshape, ?_⟩
    rw [hcells', Array.toList_setIfInBounds, hplace, hcells, ← hfront,
      List.set_append_right _ _ (Nat.le_refl _), Nat.sub_self, List.set_cons_zero]
  · exact ⟨b, rfl, rfl, hcells⟩

/-- A line is written where the row has been blank. -/
theorem inscribeLine_ok {line : List Char} {front back : List Cell} (hb : b.Roomy)
    (hy : y < b.rowCount) (hx : x + line.length = b.columns)
    (hfront : front.length = y * b.columns + x)
    (hcells : b.cells.toList = front ++ (List.replicate line.length .empty ++ back)) :
    ∃ b', b.inscribeLine y x line = .ok b' ∧ b'.toShape = b.toShape ∧
      b'.cells.toList = front ++ (line.map Cell.ofMark ++ back) := by
  induction line generalizing b x front with
  | nil => exact ⟨b, rfl, rfl, hcells⟩
  | cons c cs ih =>
    rw [List.length_cons] at hx hcells
    obtain ⟨b₁, h₁, hshape₁, hcells₁⟩ := inscribeCell_ok hb (by omega) hy hfront hcells c
    have hfront₁ : (front ++ [Cell.ofMark c]).length = y * b₁.columns + (x + 1) := by
      rw [hshape₁, List.length_append, hfront]
      rfl
    have hx₁ : x + 1 + cs.length = b₁.columns := by
      rw [hshape₁]
      omega
    obtain ⟨b', h', hshape', hcells'⟩ := ih (hshape₁ ▸ hb) (hshape₁ ▸ hy) hx₁ hfront₁
      (by rw [hcells₁, List.append_assoc]; rfl)
    refine ⟨b', bind_eq_ok.mpr ⟨b₁, h₁, h'⟩, hshape'.trans hshape₁, ?_⟩
    rw [hcells', List.append_assoc]
    rfl

/-- Rows are written as they are put together, one below the other. -/
theorem inscribeRows_eq {lines : List (List Char)} {front : List Cell} {rows above : Nat}
    (hb : b.Roomy) (hrows : above + rows = b.rowCount) (hfront : front.length = above * b.columns)
    (hcells : b.cells.toList = front ++ List.replicate (rows * b.columns) .empty) :
    (∃ e, readRows b.toShape rows above lines = .error e ∧
      inscribeRows rows above lines b = .ok (.error e)) ∨
    ∃ cells rest b', readRows b.toShape rows above lines = .ok (cells, rest) ∧
      inscribeRows rows above lines b = .ok (.ok (b', rest)) ∧ b'.toShape = b.toShape ∧
      b'.cells.toList = front ++ cells := by
  induction rows generalizing above lines front b with
  | zero =>
    refine .inr ⟨[], lines, b, rfl, rfl, rfl, ?_⟩
    rw [hcells, Nat.zero_mul]
    rfl
  | succ rows ih =>
    cases lines with
    | nil => exact .inl ⟨_, rfl, rfl⟩
    | cons line lines =>
      rw [readRows, inscribeRows]
      split
      · next hline =>
        have habove : above < b.rowCount := by omega
        have hline' : 0 + line.length = b.columns := by omega
        have hblank : b.cells.toList = front ++ (List.replicate line.length .empty ++
            List.replicate (rows * b.columns) .empty) := by
          rw [hcells, hline, List.replicate_append_replicate, Nat.succ_mul, Nat.add_comm]
        obtain ⟨b₁, h₁, hshape₁, hcells₁⟩ := inscribeLine_ok hb habove hline' hfront hblank
        rw [← hshape₁, h₁, ok_bind]
        -- the next rows go below those written so far
        have hrows₁ : above + 1 + rows = b₁.rowCount := by
          rw [hshape₁]
          omega
        have hfront₁ : (front ++ line.map Cell.ofMark).length = (above + 1) * b₁.columns := by
          rw [hshape₁, List.length_append, List.length_map, hline, hfront, Nat.succ_mul]
        have hblank₁ : b₁.cells.toList = front ++ line.map Cell.ofMark ++
            List.replicate (rows * b₁.columns) .empty := by
          rw [hcells₁, hshape₁, List.append_assoc]
        rcases ih (hshape₁ ▸ hb) hrows₁ hfront₁ hblank₁ with
          ⟨e, hread, hwrite⟩ | ⟨cells, rest, b', hread, hwrite, hshape', hcells'⟩
        · exact .inl ⟨e, by rw [hread], hwrite⟩
        · refine .inr ⟨line.map Cell.ofMark ++ cells, rest, b', by rw [hread], hwrite, hshape', ?_⟩
          rw [hcells', List.append_assoc]
      · exact .inl ⟨_, rfl, rfl⟩

section
variable {text : String} {width height : Int32} {s : Shape} {cells : List Cell}
  {rest : List (List Char)} (hs : Shape.ofSides width height = .ok s)
include hs

theorem ofText_of_readRows_error {e : BoardError}
    (hr : readRows s s.rowCount 0 (Text.lines text.toList) = .error e) :
    ofText text width height = .error e := by
  unfold ofText
  simp only [hs]
  split
  · next e' he =>
    rw [hr] at he
    exact congrArg Except.error (Except.error.inj he).symm
  · next he =>
    rw [hr] at he
    cases he

/-- Where the rows can be read, the lines after them decide. -/
theorem ofText_of_readRows
    (hr : readRows s s.rowCount 0 (Text.lines text.toList) = .ok (cells, rest)) :
    ofText text width height =
      match rest.findIdx? fun line => !Text.allBlank line with
      | some i => .error (.extraLine (s.rowCount + i + 1))
      | none => .ok { s with
          cells := cells.toArray
          size_eq := List.size_toArray.trans (length_readRows hr) } := by
  unfold ofText
  simp only [hs]
  split
  · next he =>
    rw [hr] at he
    cases he
  · next he =>
    rw [hr] at he
    obtain ⟨rfl, rfl⟩ := Prod.mk.inj (Except.ok.inj he)
    rfl

end

theorem blank_of_ofSides {width height : Int32} {s : Shape}
    (hs : Shape.ofSides width height = .ok s) :
    ∃ b, blank width height = .ok b ∧ b.toShape = s ∧
      b.cells.toList = List.replicate (s.rowCount * s.columns) .empty := by
  refine ⟨_, by rw [blank, hs]; rfl, rfl, ?_⟩
  exact Array.toList_replicate

theorem ofSides_eq_ok {width height : Int32} {s : Shape} :
    Shape.ofSides width height = .ok s ↔ s.width = width ∧ s.height = height := by
  unfold Shape.ofSides
  constructor
  · intro h
    split at h
    · cases h
    · split at h
      · obtain rfl := Except.ok.inj h
        exact ⟨rfl, rfl⟩
      · cases h
  · rintro ⟨rfl, rfl⟩
    have hw := s.width_pos
    have hh := s.height_pos
    rw [dif_neg (by omega), dif_pos s.area_lt]

/-- Putting a board together row by row and writing it cell by cell come to the same, with
sides with which wrapping never overflows. -/
theorem inscribe_eq (text : String) {width height : Int32} (hw : width.toInt ≤ 1073741824)
    (hh : height.toInt ≤ 1073741824) :
    inscribe text width height = .ok (ofText text width height) := by
  cases hs : Shape.ofSides width height with
  | error e =>
    rw [inscribe, blank, hs, ofText, hs]
    rfl
  | ok s =>
    obtain ⟨b, hb, hshape, hcells⟩ := blank_of_ofSides hs
    obtain ⟨hwidth, hheight⟩ := ofSides_eq_ok.mp hs
    have hroomy : b.Roomy := by
      rw [hshape]
      exact ⟨hwidth ▸ hw, hheight ▸ hh⟩
    rw [← hshape] at hcells
    rw [inscribe, hb]
    dsimp only
    have hnone : ([] : List Cell).length = 0 * b.columns := (Nat.zero_mul _).symm
    rcases inscribeRows_eq hroomy (Nat.zero_add _) hnone hcells with
      ⟨e, hread, hwrite⟩ | ⟨cells, rest, b', hread, hwrite, hshape', hcells'⟩
    · rw [hwrite]
      rw [hshape] at hread
      rw [ofText_of_readRows_error hs hread]
      rfl
    · rw [hwrite, ok_bind]
      rw [hshape] at hread
      rw [ofText_of_readRows hs hread]
      dsimp only
      cases rest.findIdx? fun line => !Text.allBlank line with
      | some i => rw [hshape', hshape]; rfl
      | none =>
        have hb' : b' = { s with
            cells := cells.toArray
            size_eq := List.size_toArray.trans (length_readRows hread) } :=
          eq_of_cells (hshape'.trans hshape) (Array.toList_inj.mp hcells')
        rw [hb']
        rfl

/-! ## The format -/

/-- The rows that are read, and the lines that are left. -/
theorem readRows_eq_ok {s : Shape} {n above : Nat} {lines rest : List (List Char)}
    {cells : List Cell} :
    readRows s n above lines = .ok (cells, rest) ↔
      ∃ rows : List (List Char), lines = rows ++ rest ∧ rows.length = n ∧
        (∀ row ∈ rows, row.length = s.columns) ∧ cells = rows.flatten.map Cell.ofMark := by
  induction n generalizing above lines cells with
  | zero =>
    simp only [readRows, Except.ok.injEq, Prod.mk.injEq]
    constructor
    · rintro ⟨rfl, rfl⟩
      exact ⟨[], rfl, rfl, List.forall_mem_nil _, rfl⟩
    · rintro ⟨rows, rfl, hn, -, rfl⟩
      obtain rfl := List.length_eq_zero_iff.mp hn
      exact ⟨rfl, rfl⟩
  | succ n ih =>
    cases lines with
    | nil =>
      constructor
      · intro h
        cases h
      · rintro ⟨rows, hlines, hn, -⟩
        obtain ⟨rfl, -⟩ := List.append_eq_nil_iff.mp hlines.symm
        cases hn
    | cons line lines =>
      rw [readRows]
      constructor
      · intro h
        split at h
        · next hline =>
          split at h
          · next cells' rest' hr =>
            obtain ⟨rfl, rfl⟩ := Prod.mk.inj (Except.ok.inj h)
            obtain ⟨rows, rfl, rfl, hrows, rfl⟩ := ih.mp hr
            exact ⟨line :: rows, rfl, rfl, List.forall_mem_cons.mpr ⟨hline, hrows⟩, by simp⟩
          · cases h
        · cases h
      · rintro ⟨rows, hlines, hn, hrows, rfl⟩
        cases rows with
        | nil => cases hn
        | cons row rows =>
          obtain ⟨hrow, hrows⟩ := List.forall_mem_cons.mp hrows
          obtain ⟨hline, hlines⟩ := List.cons_eq_cons.mp (hlines.trans List.cons_append)
          rw [hline, if_pos hrow, ih.mpr ⟨rows, hlines, Nat.succ.inj hn, hrows, rfl⟩]
          simp

/-- A text in which `rows` show a board of the given sides. -/
structure Shows (text : String) (width height : Int32) (rows below : List (List Char)) : Prop where
  width_pos : 0 < width.toInt
  height_pos : 0 < height.toInt
  area_le : width.toInt * height.toInt ≤ 2147483647
  written : Text.Written text.toList (rows ++ below)
  length_rows : (rows.length : Int) = height.toInt
  length_row : ∀ row ∈ rows, (row.length : Int) = width.toInt
  blank : ∀ line ∈ below, ∀ c ∈ line, Text.isBlank c = true

theorem findIdx?_eq_none_iff {lines : List (List Char)} :
    (lines.findIdx? fun line => !Text.allBlank line) = none ↔
      ∀ line ∈ lines, ∀ c ∈ line, Text.isBlank c = true := by
  simp [List.findIdx?_eq_none_iff, Text.allBlank]

theorem shows_of_ofText {text : String} {width height : Int32}
    (h : ofText text width height = .ok b) :
    ∃ rows below, Shows text width height rows below ∧ b.width = width ∧ b.height = height ∧
      b.cells.toList = rows.flatten.map Cell.ofMark := by
  cases hs : Shape.ofSides width height with
  | error e =>
    rw [ofText, hs] at h
    cases h
  | ok s =>
    obtain ⟨rfl, rfl⟩ := ofSides_eq_ok.mp hs
    cases hr : readRows s s.rowCount 0 (Text.lines text.toList) with
    | error e =>
      rw [ofText_of_readRows_error hs hr] at h
      cases h
    | ok read =>
      obtain ⟨cells, below⟩ := read
      obtain ⟨rows, hlines, hn, hrows, hcells⟩ := readRows_eq_ok.mp hr
      rw [ofText_of_readRows hs hr] at h
      split at h
      · cases h
      · next hbelow =>
        obtain rfl := Except.ok.inj h
        have hw := s.natCast_columns
        have hh := s.natCast_rowCount
        refine ⟨rows, below, ⟨s.width_pos, s.height_pos, ?_, Text.written_iff.mpr hlines, ?_, ?_,
          findIdx?_eq_none_iff.mp hbelow⟩, rfl, rfl, hcells⟩
        · have := s.area_lt
          omega
        · rw [hn, hh]
        · intro row hrow
          rw [hrows row hrow, hw]

theorem Shows.ofText_ok {text : String} {width height : Int32} {rows below : List (List Char)}
    (h : Shows text width height rows below) : ∃ b, ofText text width height = .ok b := by
  have harea := h.area_le
  let s : Shape := ⟨width, height, h.width_pos, h.height_pos, by omega⟩
  have hs : Shape.ofSides width height = .ok s := ofSides_eq_ok.mpr ⟨rfl, rfl⟩
  have hw : (s.columns : Int) = width.toInt := s.natCast_columns
  have hh : (s.rowCount : Int) = height.toInt := s.natCast_rowCount
  have hr : readRows s s.rowCount 0 (Text.lines text.toList) =
      .ok (rows.flatten.map Cell.ofMark, below) := by
    refine readRows_eq_ok.mpr ⟨rows, Text.written_iff.mp h.written, ?_, ?_, rfl⟩
    · have := h.length_rows
      omega
    · intro row hrow
      have := h.length_row row hrow
      omega
  rw [ofText_of_readRows hs hr, findIdx?_eq_none_iff.mpr h.blank]
  exact ⟨_, rfl⟩

/-! ## What is shown -/

section
variable {rows : List (List Char)} (hcells : b.cells.toList = rows.flatten.map Cell.ofMark)
include hcells

theorem foodCount_of_cells : b.foodCount = rows.flatten.count 'X' := by
  have hmark : ((· == Cell.food) ∘ Cell.ofMark) = (· == 'X') := by
    funext c
    by_cases hc : c = 'X'
    · subst hc
      rfl
    · rw [Function.comp_apply, Cell.ofMark, if_neg hc, beq_eq_false_iff_ne.mpr hc]
      rfl
  rw [foodCount, ← Array.count_toList, hcells, List.count_eq_countP, List.countP_map, hmark,
    List.count_eq_countP]

variable (hrows : ∀ row ∈ rows, row.length = b.columns)
include hrows

theorem rows_of_cells : b.rows = rows.map (·.map Cell.ofMark) := by
  rw [Board.rows, hcells, List.map_flatten]
  refine chunksOf_flatten (fun cells h => ?_) b.columns_pos
  obtain ⟨row, hrow, rfl⟩ := List.mem_map.mp h
  rw [List.length_map, hrows row hrow]

theorem get_of_cells (hb : b.Roomy) (hlen : rows.length = b.rowCount) {p : Position}
    (hp : b.Holds p) :
    ∃ row c, rows[p.y.toInt.toNat]? = some row ∧ row[p.x.toInt.toNat]? = some c ∧
      b.get p = .ok (Cell.ofMark c) := by
  have hw := b.natCast_columns
  have hh := b.natCast_rowCount
  obtain ⟨hx, hxw, hy, hyh⟩ := hp
  have hrow : p.y.toInt.toNat < rows.length := by omega
  have hcol : p.x.toInt.toNat < b.columns := by omega
  have hin : p.x.toInt.toNat < rows[p.y.toInt.toNat].length := by
    rwa [hrows _ (List.getElem_mem hrow)]
  refine ⟨_, _, List.getElem?_eq_getElem hrow, List.getElem?_eq_getElem hin, ?_⟩
  rw [get_of_holds hb ⟨hx, hxw, hy, hyh⟩, Shape.place, ← Array.getElem?_toList, hcells,
    List.getElem?_map, getElem?_flatten hrows (List.getElem?_eq_getElem hrow) hcol,
    List.getElem?_eq_getElem hin]
  rfl

end

/-- The rows that a text shows are its first lines. -/
theorem Shows.unique {text : String} {width height : Int32} {rows rows' below below' :
    List (List Char)} (h : Shows text width height rows below)
    (h' : Shows text width height rows' below') : rows = rows' ∧ below = below' := by
  have hlines := (Text.written_iff.mp h.written).symm.trans (Text.written_iff.mp h'.written)
  have hn := h.length_rows
  have hn' := h'.length_rows
  exact List.append_inj hlines (by omega)

/-- A text is read if and only if it shows a board, and the board is the one it shows. The
board written cell by cell, in a blank one that wraps every position, is the same. -/
theorem ofText_shows (text : String) {width height : Int32} (hw : width.toInt ≤ 1073741824)
    (hh : height.toInt ≤ 1073741824) :
    inscribe text width height = .ok (ofText text width height) ∧
      ((∃ b, ofText text width height = .ok b) ↔ ∃ rows below, Shows text width height rows below) ∧
      ((∃ e, ofText text width height = .error e) ↔
        ¬∃ rows below, Shows text width height rows below) ∧
      ∀ b rows below, ofText text width height = .ok b → Shows text width height rows below →
        b.width = width ∧ b.height = height ∧ b.rows = rows.map (·.map Cell.ofMark) ∧
          (∀ p, b.Holds p → ∃ row c, rows[p.y.toInt.toNat]? = some row ∧
            row[p.x.toInt.toNat]? = some c ∧
            b.get p = .ok (if c = 'X' then .food else .empty)) ∧
          b.foodCount = rows.flatten.count 'X' := by
  have hok : (∃ b, ofText text width height = .ok b) ↔
      ∃ rows below, Shows text width height rows below := by
    constructor
    · rintro ⟨b, hb⟩
      obtain ⟨rows, below, h, -⟩ := shows_of_ofText hb
      exact ⟨rows, below, h⟩
    · rintro ⟨rows, below, h⟩
      exact h.ofText_ok
  refine ⟨inscribe_eq text hw hh, hok, ?_, ?_⟩
  · rw [← hok]
    cases ofText text width height <;> simp
  · intro b rows below hb h
    obtain ⟨rows', below', h', rfl, rfl, hcells⟩ := shows_of_ofText hb
    obtain ⟨rfl, rfl⟩ := h'.unique h
    have hlen : rows'.length = b.rowCount := by
      have := h.length_rows
      have := b.natCast_rowCount
      omega
    have hrows : ∀ row ∈ rows', row.length = b.columns := by
      intro row hrow
      have := h.length_row row hrow
      have := b.natCast_columns
      omega
    exact ⟨rfl, rfl, rows_of_cells hcells hrows,
      fun p hp => get_of_cells hcells hrows ⟨hw, hh⟩ hlen hp, foodCount_of_cells hcells⟩

/-- A text with carriage returns, a character of two bytes and a blank line at its end. -/
theorem ofText_shows_two :
    Shows "éX\r\r\n X\n \n" 2 2 [['é', 'X'], [' ', 'X']] [[' ']] ∧
      ∃ b, ofText "éX\r\r\n X\n \n" 2 2 = .ok b ∧ inscribe "éX\r\r\n X\n \n" 2 2 = .ok (.ok b) ∧
        b.rows = [[.empty, .food], [.empty, .food]] ∧ b.get ⟨1, 0⟩ = .ok .food ∧
        b.foodCount = 2 := by
  have hshows : Shows "éX\r\r\n X\n \n" 2 2 [['é', 'X'], [' ', 'X']] [[' ']] :=
    ⟨by decide, by decide, by decide, Text.written_iff.mpr (by decide +kernel), by decide,
      by decide, findIdx?_eq_none_iff.mp (by decide)⟩
  have hside : (2 : Int32).toInt ≤ 1073741824 := by decide
  obtain ⟨hinscribe, hok, -, hread⟩ := ofText_shows "éX\r\r\n X\n \n" hside hside
  obtain ⟨b, hb⟩ := hok.mpr ⟨_, _, hshows⟩
  obtain ⟨hwidth, hheight, hrows, hget, hcount⟩ := hread b _ _ hb hshows
  have hholds : b.Holds ⟨1, 0⟩ := by
    constructor
    · decide
    · rw [hwidth]
      decide
    · decide
    · rw [hheight]
      decide
  obtain ⟨row, c, hrow, hc, hcell⟩ := hget ⟨1, 0⟩ hholds
  obtain rfl := Option.some.inj hrow
  obtain rfl := Option.some.inj hc
  exact ⟨hshows, b, hb, hinscribe.trans (congrArg Except.ok hb), hrows, hcell, hcount⟩

end Board
end AntTrail
