import AntTrail.Proofs.Board.Motion
import AntTrail.Proofs.Board.Text
import AntTrail.Proofs.Trial.Room

/-!
# A board is a store of cells

Positions that differ by whole widths and heights are the same cell (`Shape.Coincide`), and
no others are (`index_eq_iff`). So a board reads as what was last written to the cell
(`get_set`, `write_ok`), its food is counted one by one (`foodCount_set`), and its rows
hold the cells in their columns (`tabulated`).
-/
namespace AntTrail

/-- The pieces of food on a cell. -/
def Cell.portions : Cell → Nat
  | .food => 1
  | .empty | .eaten => 0

theorem Cell.portions_eq (c : Cell) : c.portions = if c == .food then 1 else 0 := by
  cases c <;> rfl

/-! ## Positions of one cell -/

namespace Shape

variable {s : Shape} {p q r : Position}

/-- The two positions are the same but for whole turns around the torus. -/
structure Coincide (s : Shape) (p q : Position) : Prop where
  x : p.x.toInt ≡ q.x.toInt [ZMOD s.width.toInt]
  y : p.y.toInt ≡ q.y.toInt [ZMOD s.height.toInt]

instance : Decidable (s.Coincide p q) :=
  decidable_of_iff (p.x.toInt ≡ q.x.toInt [ZMOD s.width.toInt] ∧
    p.y.toInt ≡ q.y.toInt [ZMOD s.height.toInt]) ⟨fun h => ⟨h.1, h.2⟩, fun h => ⟨h.x, h.y⟩⟩

namespace Coincide

theorem symm (h : s.Coincide p q) : s.Coincide q p := ⟨h.x.symm, h.y.symm⟩

theorem trans (h : s.Coincide p q) (h' : s.Coincide q r) : s.Coincide p r :=
  ⟨h.x.trans h'.x, h.y.trans h'.y⟩

end Coincide

theorem coincide_wrap (h : p.wrap s.width s.height = .ok q) : s.Coincide q p :=
  ⟨(wrap_modEq h).1, (wrap_modEq h).2⟩

/-- They are brought to the same position on the board, and only they are. -/
theorem coincide_iff_wrap_eq {p' q' : Position} (hp : p.wrap s.width s.height = .ok p')
    (hq : q.wrap s.width s.height = .ok q') : s.Coincide p q ↔ p' = q' := by
  constructor
  · intro h
    have h' := ((coincide_wrap hp).trans h).trans (coincide_wrap hq).symm
    exact eq_of_modEq (holds_wrap hp) (holds_wrap hq) h'.x h'.y
  · rintro rfl
    exact (coincide_wrap hp).symm.trans (coincide_wrap hq)

end Shape

namespace Board

variable {b b' : Board} {p q : Position} {c old : Cell} {i j : Nat}

theorem index_eq_iff (hp : b.index p = .ok i) (hq : b.index q = .ok j) :
    i = j ↔ b.Coincide p q := by
  obtain ⟨p', hpw, hp', rfl⟩ := index_eq_ok hp
  obtain ⟨q', hqw, hq', rfl⟩ := index_eq_ok hq
  rw [Shape.coincide_iff_wrap_eq hpw hqw]
  constructor
  · exact Shape.place_inj hp' hq'
  · rintro rfl
    rfl

/-! ## One write -/

theorem index_congr (h : b'.toShape = b.toShape) (p : Position) : b'.index p = b.index p := by
  rw [index, index, h]

/-- What is read after a write: what was written, at the positions of that cell, and what
was read before, at all others. -/
theorem get_set (h : b.set p c = .ok b') (hq : b.Clears q) :
    b'.get q = if b.Coincide p q then .ok c else b.get q := by
  obtain ⟨i, hi, hshape, hcells⟩ := set_eq_ok h
  obtain ⟨j, hj⟩ := index_ok hq
  have hj' : b'.index q = .ok j := (index_congr hshape q).trans hj
  have hread := Array.getElem?_eq_getElem (index_lt hj)
  split
  · next hsame =>
    obtain rfl := (index_eq_iff hi hj).mpr hsame
    refine get_eq_ok.mpr ⟨i, hj', ?_⟩
    rw [hcells, Array.getElem?_setIfInBounds_self_of_lt (index_lt hi)]
  · next hother =>
    have hne : i ≠ j := fun e => hother ((index_eq_iff hi hj).mp e)
    rw [get_eq_ok.mpr ⟨j, hj, hread⟩]
    refine get_eq_ok.mpr ⟨j, hj', ?_⟩
    rw [hcells, Array.getElem?_setIfInBounds_ne hne, hread]

/-- The food on the board changes by what is written and what it replaces. -/
theorem foodCount_set (h : b.set p c = .ok b') (hold : b.get p = .ok old) :
    b'.foodCount + old.portions = b.foodCount + c.portions := by
  obtain ⟨i, hi, -, hcells⟩ := set_eq_ok h
  obtain ⟨j, hj, hread⟩ := get_eq_ok.mp hold
  obtain rfl := Except.ok.inj (hi.symm.trans hj)
  obtain ⟨hlt, hread⟩ := Array.getElem?_eq_some_iff.mp hread
  -- what is taken away has been counted
  have hle : old.portions ≤ b.cells.count .food := by
    cases old with
    | food => exact Array.count_pos_iff.mpr (hread ▸ Array.getElem_mem hlt)
    | empty => exact Nat.zero_le _
    | eaten => exact Nat.zero_le _
  rw [foodCount, foodCount, hcells, Array.setIfInBounds_def, dif_pos hlt, Array.count_set hlt,
    hread, ← Cell.portions_eq, ← Cell.portions_eq]
  omega

/-! ## Many writes -/

/-- The board after some writes, one after the other. -/
def write (b : Board) : List (Position × Cell) → Except Fault Board
  | [] => .ok b
  | (p, c) :: ws => do (← b.set p c).write ws

/-- The last of some writes to the cell of a position. -/
def lastWrite (s : Shape) (ws : List (Position × Cell)) (q : Position) : Option Cell :=
  (ws.reverse.find? fun w => s.Coincide w.1 q).map Prod.snd

theorem lastWrite_cons {s : Shape} (ws : List (Position × Cell)) :
    lastWrite s ((p, c) :: ws) q =
      (lastWrite s ws q).or (if s.Coincide p q then some c else none) := by
  rw [lastWrite, lastWrite, List.reverse_cons, List.find?_append]
  by_cases h : s.Coincide p q
  · cases ws.reverse.find? fun w => s.Coincide w.1 q <;> simp [h]
  · cases ws.reverse.find? fun w => s.Coincide w.1 q <;> simp [h]

/-- After any number of writes each cell holds what was last written to it, or else what it
held before. -/
theorem write_ok (hb : b.Roomy) (ws : List (Position × Cell)) :
    ∃ b', b.write ws = .ok b' ∧ b'.toShape = b.toShape ∧
      ∀ q, b'.get q = match lastWrite b.toShape ws q with
        | some c => .ok c
        | none => b.get q := by
  induction ws generalizing b with
  | nil => exact ⟨b, rfl, rfl, fun _ => rfl⟩
  | cons w ws ih =>
    obtain ⟨p, c⟩ := w
    obtain ⟨i, hi⟩ := index_ok (hb.clears p)
    obtain ⟨b₁, h₁⟩ := set_ok hi c
    obtain ⟨-, -, hshape₁, -⟩ := set_eq_ok h₁
    obtain ⟨b', h', hshape', hget'⟩ := ih (hshape₁ ▸ hb)
    refine ⟨b', bind_eq_ok.mpr ⟨b₁, h₁, h'⟩, hshape'.trans hshape₁, fun q => ?_⟩
    rw [hget', hshape₁, lastWrite_cons, get_set h₁ (hb.clears q)]
    -- a later write to the cell hides this one
    cases lastWrite b.toShape ws q with
    | some d => rfl
    | none =>
      by_cases h : b.Coincide p q
      · simp [h]
      · simp [h]

/-! ## Rows -/

/-- The rows are as many as the board is high, each of as many cells as it is wide, and a
cell of the board stands in its row at its column. -/
structure Tabulated (b : Board) : Prop where
  length_rows : b.rows.length = b.rowCount
  length_row : ∀ row ∈ b.rows, row.length = b.columns
  get : ∀ p, b.Holds p → ∃ row c, b.rows[p.y.toInt.toNat]? = some row ∧
    row[p.x.toInt.toNat]? = some c ∧ b.get p = .ok c

theorem tabulated (hb : b.Roomy) : b.Tabulated where
  length_rows := b.length_rows
  length_row _ := length_of_mem_rows
  get := by
    intro p hp
    have hw := b.natCast_columns
    have hh := b.natCast_rowCount
    obtain ⟨c, hc⟩ := get_ok (hb.clears p)
    obtain ⟨hx, hxw, hy, hyh⟩ := id hp
    have hcol : p.x.toInt.toNat < b.columns := by omega
    have hrow : p.y.toInt.toNat < b.rows.length := by
      rw [b.length_rows]
      omega
    have hget := List.getElem?_eq_getElem hrow
    refine ⟨_, c, hget, ?_, hc⟩
    rw [getElem?_rows hget hcol]
    exact (get_of_holds hb hp).mp hc

/-- Boards obey the laws of a store. On a board with sides of at most `2^30` any number of
writes succeeds; the shape stays, each cell reads as what was last written to it or else as
it did before, and the rows show it so. One more write, whatever and wherever, is seen at
just the positions that are congruent to its own, and changes the food by one piece more if
it is food and one piece less if it replaces food. -/
theorem store_laws (hb : b.Roomy) (ws : List (Position × Cell)) :
    ∃ b₁, b.write ws = .ok b₁ ∧ b₁.toShape = b.toShape ∧
      (∀ q, b₁.get q = match lastWrite b.toShape ws q with
        | some c => .ok c
        | none => b.get q) ∧
      b₁.Tabulated ∧
      ∀ p c, ∃ old b₂, b₁.get p = .ok old ∧ b₁.set p c = .ok b₂ ∧ b₂.toShape = b₁.toShape ∧
        (∀ q, ∃ d, b₁.get q = .ok d ∧ b₂.get q = .ok (if b.Coincide p q then c else d)) ∧
        (b₂.foodCount : Int) = b₁.foodCount + c.portions - old.portions := by
  obtain ⟨b₁, h₁, hshape₁, hget₁⟩ := write_ok hb ws
  have hb₁ : b₁.Roomy := hshape₁ ▸ hb
  refine ⟨b₁, h₁, hshape₁, hget₁, tabulated hb₁, fun p c => ?_⟩
  obtain ⟨old, hold⟩ := get_ok (hb₁.clears p)
  obtain ⟨i, hi⟩ := index_ok (hb₁.clears p)
  obtain ⟨b₂, h₂⟩ := set_ok hi c
  obtain ⟨-, -, hshape₂, -⟩ := set_eq_ok h₂
  refine ⟨old, b₂, hold, h₂, hshape₂, fun q => ?_, ?_⟩
  · obtain ⟨d, hd⟩ := get_ok (hb₁.clears q)
    refine ⟨d, hd, ?_⟩
    rw [get_set h₂ (hb₁.clears q), hshape₁, hd]
    split
    · rfl
    · rfl
  · have hcount := foodCount_set h₂ hold
    omega

/-- Two writes to the last cell of a track of three, under different names, and between them
one from far off. -/
def trackWrites : List (Position × Cell) :=
  [(⟨-1, 5⟩, .food), (⟨-2147483648, 2147483647⟩, .food), (⟨5, -1⟩, .eaten)]

theorem store_laws_track :
    Journey.track.Roomy ∧ ∃ b₁, Journey.track.write trackWrites = .ok b₁ ∧
      b₁.get ⟨2, 0⟩ = .ok .eaten ∧ b₁.get ⟨1, 0⟩ = .ok .food ∧
      b₁.get ⟨0, 0⟩ = Journey.track.get ⟨0, 0⟩ ∧ b₁.Tabulated ∧
      ∃ old b₂, b₁.get ⟨-2, -1⟩ = .ok old ∧ b₁.set ⟨-2, -1⟩ .empty = .ok b₂ ∧
        b₂.get ⟨1, 0⟩ = .ok .empty ∧ (b₂.foodCount : Int) = b₁.foodCount - 1 := by
  have hb : Journey.track.Roomy := ⟨by decide, by decide⟩
  obtain ⟨b₁, h₁, -, hget, hrows, hset⟩ := store_laws hb trackWrites
  obtain ⟨old, b₂, hold, h₂, -, hget₂, hcount⟩ := hset ⟨-2, -1⟩ .empty
  have hlast : lastWrite Journey.track.toShape trackWrites ⟨2, 0⟩ = some .eaten := by decide
  have hmiddle : lastWrite Journey.track.toShape trackWrites ⟨1, 0⟩ = some .food := by decide
  have hfirst : lastWrite Journey.track.toShape trackWrites ⟨0, 0⟩ = none := by decide
  have hfar : lastWrite Journey.track.toShape trackWrites ⟨-2, -1⟩ = some .food := by decide
  obtain rfl : old = .food := by simpa [hget, hfar] using hold.symm
  obtain ⟨d, -, hd⟩ := hget₂ ⟨1, 0⟩
  have hsame : Journey.track.Coincide ⟨-2, -1⟩ ⟨1, 0⟩ := by decide
  refine ⟨hb, b₁, h₁, ?_, ?_, ?_, hrows, .food, b₂, hold, h₂, ?_, hcount⟩
  · rw [hget, hlast]
  · rw [hget, hmiddle]
  · rw [hget, hfirst]
  · rw [hd, if_pos hsame]

end Board
end AntTrail
