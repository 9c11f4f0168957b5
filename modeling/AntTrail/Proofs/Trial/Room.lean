import AntTrail.Proofs.Trial.Food

/-!
# How large a board may be

A board is accepted if its cells can be counted in 32 bits, and then the place of every
cell fits (`Board.index_fits`). But the sum in the middle of wrapping can still overflow:
at a position that the board does not clear no cell can be reached (`Board.get_eq_error`,
`Board.set_eq_error`). There is no such position only if both sides are at most `2^30`
(`Shape.roomy_iff_clears`), and this bound decides too whether ants move freely
(`Board.roomy_iff_walkable`).
-/
namespace AntTrail

/-! ## Positions -/

/-- A side beyond `2^30` has two neighbours on it of which the second cannot be wrapped. -/
theorem Position.exists_not_wrapped {size : Int32} (h : ¬size.toInt ≤ 1073741824) :
    ∃ a c : Int32, 0 ≤ a.toInt ∧ a.toInt < size.toInt ∧ c.toInt = a.toInt + 1 ∧
      ¬c.toInt.tmod size.toInt + size.toInt < 2147483648 := by
  have hs := size.toInt_lt
  have ha : (Int32.ofInt (2147483647 - size.toInt)).toInt = 2147483647 - size.toInt :=
    Checked.toInt_ofInt (by constructor <;> omega)
  have hc : (Int32.ofInt (2147483648 - size.toInt)).toInt = 2147483648 - size.toInt :=
    Checked.toInt_ofInt (by constructor <;> omega)
  refine ⟨Int32.ofInt (2147483647 - size.toInt), Int32.ofInt (2147483648 - size.toInt),
    by omega, by omega, by omega, ?_⟩
  rw [hc, Int.tmod_eq_of_lt (by omega) (by omega)]
  omega

namespace Shape

/-- Every position is cleared just if no side is beyond `2^30`. -/
theorem roomy_iff_clears {s : Shape} : s.Roomy ↔ ∀ p, s.Clears p := by
  constructor
  · intro hs p
    exact hs.clears p
  · intro h
    constructor
    · apply Decidable.of_not_not
      intro hwide
      obtain ⟨a, c, -, -, -, hc⟩ := Position.exists_not_wrapped hwide
      exact hc (h ⟨c, 0⟩).x_lt
    · apply Decidable.of_not_not
      intro htall
      obtain ⟨a, c, -, -, -, hc⟩ := Position.exists_not_wrapped htall
      exact hc (h ⟨0, c⟩).y_lt

end Shape

/-! ## Cells -/

namespace Board

variable {b : Board} {p : Position} {i : Nat}

/-- The place of a cell, and the product that it takes, are within 32 bits. -/
theorem index_fits (h : b.index p = .ok i) :
    i < b.cells.size ∧ ∃ q, p.wrap b.width b.height = .ok q ∧
      Checked.Fits (q.y.toInt * b.width.toInt) ∧
      Checked.Fits (q.y.toInt * b.width.toInt + q.x.toInt) ∧
      q.y.toInt * b.width.toInt + q.x.toInt = i := by
  obtain ⟨q, hq, ⟨hx, hxw, hy, hyh⟩, hi⟩ := index_eq_ok h
  have hw := b.width_pos
  have hplace : q.y.toInt * b.width.toInt + q.x.toInt = i := by
    rw [hi, Shape.place, Shape.columns, Int.natCast_add, Int.natCast_mul, Int.toNat_of_nonneg hx,
      Int.toNat_of_nonneg hy, Int.toNat_of_nonneg (Int.le_of_lt hw)]
  -- a row further down would still be on the board
  have hrow : (q.y.toInt + 1) * b.width.toInt ≤ b.height.toInt * b.width.toInt :=
    Int.mul_le_mul_of_nonneg_right (by omega) (Int.le_of_lt hw)
  have harea := b.area_lt
  have hpos : 0 ≤ q.y.toInt * b.width.toInt := Int.mul_nonneg hy (Int.le_of_lt hw)
  rw [Int.add_mul, Int.one_mul, Int.mul_comm b.height.toInt] at hrow
  exact ⟨index_lt h, q, hq, by constructor <;> omega, by constructor <;> omega, hplace⟩

theorem index_eq_error (h : ¬b.Clears p) : b.index p = .error .addOverflow := by
  rw [index, Shape.wrap_eq_error h]
  rfl

theorem get_ok (h : b.Clears p) : ∃ c, b.get p = .ok c := by
  obtain ⟨i, hi⟩ := index_ok h
  exact ⟨_, get_eq_ok.mpr ⟨i, hi, Array.getElem?_eq_getElem (index_lt hi)⟩⟩

theorem get_eq_error (h : ¬b.Clears p) : b.get p = .error .addOverflow := by
  rw [get, index_eq_error h]
  rfl

theorem set_eq_error (h : ¬b.Clears p) (c : Cell) : b.set p c = .error .addOverflow := by
  rw [set, index_eq_error h]
  rfl

/-- Sides that are positive and leave the number of cells within 32 bits are accepted. -/
theorem blank_ok (width height : Int32) (hw : 0 < width.toInt) (hh : 0 < height.toInt)
    (ha : width.toInt * height.toInt < 2147483648) :
    ∃ b, blank width height = .ok b ∧ b.width = width ∧ b.height = height := by
  have hs : Shape.ofSides width height = .ok ⟨width, height, hw, hh, ha⟩ := by
    rw [Shape.ofSides, dif_neg (by omega), dif_pos ha]
  exact ⟨_, by rw [blank, hs]; rfl, rfl, rfl⟩

end Board

/-! ## Ants -/

namespace Journey

variable {b : Board} {j : Journey}

/-- On a board that leaves room for wrapping an ant with budget left does what is asked. -/
theorem Sound.answer_ok (hj : j.Sound b) (hb : b.Roomy)
    (hs : -2147483648 < j.trial.stepsLeft.toInt) (r : Request) :
    ∃ t, j.trial.answer r = .ok t := by
  have hroomy : j.trial.board.Roomy := hj.accounts.shape ▸ hb
  cases r with
  | act a => exact Trial.act_ok hroomy hj.placed hs a
  | look =>
    obtain ⟨food, hf⟩ := Trial.foodAhead_ok hroomy hj.placed
    exact ⟨j.trial, bind_eq_ok.mpr ⟨food, hf, rfl⟩⟩

end Journey

/-- From any start an ant can be sent over the board for as long as its budget can go
down: nothing that is asked of it breaks off. -/
def Board.Walkable (b : Board) : Prop :=
  ∀ settings total, ∃ t, Trial.start b settings total = .ok t ∧
    ∀ rs j, (Journey.begin t).run rs = .ok j → -2147483648 < j.trial.stepsLeft.toInt →
      ∀ r, ∃ t', j.trial.answer r = .ok t'

namespace Board

variable {b : Board}

/-- Where ants are never stopped, the cell before the start can be looked at. -/
theorem Walkable.clears_ahead (h : b.Walkable) {start : Position} (hs : b.Holds start)
    (heading : Heading) {p : Position}
    (hp : start.shift heading.delta.1 heading.delta.2 = .ok p) : b.Clears p := by
  obtain ⟨t, ht, hrun⟩ := h { start, heading } 0
  obtain ⟨position, hw, hheld, he⟩ := Trial.start_cases ht
  have hq : Trial.Placed ⟨b, position, heading, 400, 0, 0⟩ := hheld
  -- the ant stands where it was put, and has all of its budget
  have hposition : t.position = start := by
    rw [Trial.position_eat hq he]
    exact Shape.wrap_of_holds hs hw
  have hheading : t.heading = heading := Trial.heading_eat hq he
  have hsteps : -2147483648 < t.stepsLeft.toInt := by
    rw [Trial.stepsLeft_eat hq he]
    exact (by decide : -2147483648 < (400 : Int32).toInt)
  have hshape : t.board.toShape = b.toShape := (Trial.eat_later hq he).shape
  obtain ⟨t', hlook⟩ := hrun [] (Journey.begin t) rfl hsteps .look
  obtain ⟨food, hfood, -⟩ := bind_eq_ok.mp hlook
  obtain ⟨q, hahead, -⟩ := bind_eq_ok.mp hfood
  have hahead : t.position.step t.heading t.board.width t.board.height = .ok q := hahead
  rw [hposition, hheading, hshape, Position.step, hp, ok_bind] at hahead
  exact Shape.clears_of_wrap hahead

/-- Ants move freely just on boards whose sides leave room for wrapping. -/
theorem roomy_iff_walkable : b.Roomy ↔ b.Walkable := by
  constructor
  · intro hb settings total
    obtain ⟨t, ht⟩ := Trial.start_ok hb settings total
    refine ⟨t, ht, fun rs j hj hs r => ?_⟩
    obtain ⟨hsound, -⟩ := (Journey.Sound.begin ht).run hj
    exact hsound.answer_ok hb hs r
  · intro h
    constructor
    · -- an ant that goes east from the last column before the first that is not wrapped
      apply Decidable.of_not_not
      intro hwide
      obtain ⟨a, c, hlow, hhigh, hstep, hc⟩ := Position.exists_not_wrapped hwide
      have hstart : b.Holds ⟨a, 0⟩ := ⟨hlow, hhigh, Int.le_refl 0, b.height_pos⟩
      have hshift : (⟨a, 0⟩ : Position).shift 1 0 = .ok ⟨c, 0⟩ :=
        Position.shift_eq_ok.mpr ⟨hstep, rfl⟩
      exact hc (h.clears_ahead hstart .east hshift).x_lt
    · -- and one that goes south in the same way
      apply Decidable.of_not_not
      intro htall
      obtain ⟨a, c, hlow, hhigh, hstep, hc⟩ := Position.exists_not_wrapped htall
      have hstart : b.Holds ⟨0, a⟩ := ⟨Int.le_refl 0, b.width_pos, hlow, hhigh⟩
      have hshift : (⟨0, a⟩ : Position).shift 0 1 = .ok ⟨0, c⟩ :=
        Position.shift_eq_ok.mpr ⟨rfl, hstep⟩
      exact hc (h.clears_ahead hstart .south hshift).y_lt

/-- How far cells and ants can be reached on an accepted board. A cell is read and
written just at the positions that the board clears, and at all others the sum in the
middle of wrapping overflows; the place of a cell, and the food that an ant has
eaten, always fit. Without a side beyond `2^30` every position is cleared, and nothing that
is asked of an ant breaks off while its budget can go down; with one, neither holds. -/
theorem reach_iff_roomy (b : Board) :
    (∀ p c, (b.Clears p → (∃ d, b.get p = .ok d) ∧ ∃ b', b.set p c = .ok b') ∧
      (¬b.Clears p → b.get p = .error .addOverflow ∧ b.set p c = .error .addOverflow)) ∧
    (∀ p i, b.index p = .ok i → i < b.cells.size ∧ ∃ q, p.wrap b.width b.height = .ok q ∧
      Checked.Fits (q.y.toInt * b.width.toInt) ∧
      Checked.Fits (q.y.toInt * b.width.toInt + q.x.toInt) ∧
      q.y.toInt * b.width.toInt + q.x.toInt = i) ∧
    (∀ settings total t rs j, Trial.start b settings total = .ok t →
      (Journey.begin t).run rs = .ok j → Checked.Fits j.trial.foodEaten) ∧
    (b.Roomy ↔ ∀ p, b.Clears p) ∧ (b.Roomy ↔ b.Walkable) := by
  refine ⟨fun p c => ⟨fun h => ⟨get_ok h, ?_⟩, fun h => ⟨get_eq_error h, set_eq_error h c⟩⟩,
    fun p i h => index_fits h, fun settings total t rs j ht hj => ?_, Shape.roomy_iff_clears,
    roomy_iff_walkable⟩
  · obtain ⟨i, hi⟩ := index_ok h
    exact set_ok hi c
  · obtain ⟨hsound, -⟩ := (Journey.Sound.begin ht).run hj
    have hcount := hsound.accounts.count
    have hlt := Trial.foodCount_lt b
    constructor <;> omega

/-- Not every accepted board can be reached everywhere: one row of `2^30 + 1` cells is
accepted, but its last cell cannot be read, and ants are stopped on it. -/
theorem long_row_overflows :
    ∃ b, blank 1073741825 1 = .ok b ∧ b.get ⟨1073741824, 0⟩ = .error .addOverflow ∧
      (∀ c, b.set ⟨1073741824, 0⟩ c = .error .addOverflow) ∧ ¬b.Walkable := by
  obtain ⟨b, hb, hwidth, -⟩ := blank_ok 1073741825 1 (by decide) (by decide)
    (by decide)
  have hc : ¬b.Clears ⟨1073741824, 0⟩ := by
    intro h
    have hx := h.x_lt
    rw [hwidth] at hx
    exact absurd hx (by decide)
  have hroomy : ¬b.Roomy := by
    intro h
    have hw := h.width_le
    rw [hwidth] at hw
    exact absurd hw (by decide)
  exact ⟨b, hb, get_eq_error hc, set_eq_error hc, fun h => hroomy (roomy_iff_walkable.mpr h)⟩

end Board
end AntTrail
