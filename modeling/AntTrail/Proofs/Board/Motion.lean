import Mathlib.Data.Int.ModEq
import Mathlib.Combinatorics.Enumerative.DoubleCounting
import Mathlib.Data.Fintype.Fin
import AntTrail.Action
import AntTrail.Proofs.Board.Torus

/-!
# Laying the torus onto itself

A torus can be moved by columns and rows, and turned over from east to west, and is
still the same torus. A `Motion` says how; `Motion.Sends` says where a position goes,
up to the edges. The neighbour in a direction goes to the neighbour in the direction
turned (`Sends.step`), each cell has one image and is the image of one cell. So a board
that is another one laid out anew (`Motion.Lays`) has as much food (`Lays.foodCount_eq`)
and stays so when a cell and its image are written alike (`Lays.write`).
-/
namespace AntTrail

/-- The direction seen in a mirror. -/
def Heading.mirror : Heading → Heading
  | north => north
  | east => west
  | south => south
  | west => east

/-- The action seen in a mirror. -/
def Action.mirror : Action → Action
  | move => move
  | turnLeft => turnRight
  | turnRight => turnLeft

/-- A way to lay a torus onto itself: first it may be turned over, east to west, and then
it is moved by `dx` columns and `dy` rows. -/
structure Motion where
  mirrored : Bool
  dx : Int
  dy : Int

/-! ## Where positions go -/

namespace Shape

variable {s : Shape} {p q : Position}

/-- Two coordinates on the board are the same if they are so up to the edges. -/
theorem coordinate_eq {a b n : Int} (h : a ≡ b [ZMOD n]) (ha : 0 ≤ a) (han : a < n) (hb : 0 ≤ b)
    (hbn : b < n) : a = b := by
  rwa [Int.ModEq, Int.emod_eq_of_lt ha han, Int.emod_eq_of_lt hb hbn] at h

/-- No two positions on the board are the same up to the edges. -/
theorem eq_of_modEq (hp : s.Holds p) (hq : s.Holds q)
    (hx : p.x.toInt ≡ q.x.toInt [ZMOD s.width.toInt])
    (hy : p.y.toInt ≡ q.y.toInt [ZMOD s.height.toInt]) : p = q := by
  have hcol := coordinate_eq hx hp.x_nonneg hp.x_lt hq.x_nonneg hq.x_lt
  have hrow := coordinate_eq hy hp.y_nonneg hp.y_lt hq.y_nonneg hq.y_lt
  exact Position.eq_of_toInt hcol hrow

/-- There is a position on the board for any two numbers, up to the edges. -/
theorem exists_holds_modEq (s : Shape) (x y : Int) :
    ∃ p, s.Holds p ∧ p.x.toInt ≡ x [ZMOD s.width.toInt] ∧
      p.y.toInt ≡ y [ZMOD s.height.toInt] := by
  have hx0 := Int.emod_nonneg x (Int.ne_of_gt s.width_pos)
  have hxw := Int.emod_lt_of_pos x s.width_pos
  have hy0 := Int.emod_nonneg y (Int.ne_of_gt s.height_pos)
  have hyh := Int.emod_lt_of_pos y s.height_pos
  have hw := s.width.toInt_lt
  have hh := s.height.toInt_lt
  have hx : (Int32.ofInt (x % s.width.toInt)).toInt = x % s.width.toInt :=
    Checked.toInt_ofInt (by constructor <;> omega)
  have hy : (Int32.ofInt (y % s.height.toInt)).toInt = y % s.height.toInt :=
    Checked.toInt_ofInt (by constructor <;> omega)
  rw [← hx] at hx0 hxw
  rw [← hy] at hy0 hyh
  refine ⟨⟨Int32.ofInt (x % s.width.toInt), Int32.ofInt (y % s.height.toInt)⟩,
    ⟨hx0, hxw, hy0, hyh⟩, ?_, ?_⟩
  · rw [hx]
    exact Int.mod_modEq ..
  · rw [hy]
    exact Int.mod_modEq ..

theorem wrap_modEq (h : p.wrap s.width s.height = .ok q) :
    q.x.toInt ≡ p.x.toInt [ZMOD s.width.toInt] ∧ q.y.toInt ≡ p.y.toInt [ZMOD s.height.toInt] := by
  obtain ⟨hx, hy⟩ := wrap_eq_ok h
  rw [hx, hy]
  exact ⟨Int.mod_modEq .., Int.mod_modEq ..⟩

theorem step_modEq {heading : Heading} (h : p.step heading s.width s.height = .ok q) :
    q.x.toInt ≡ p.x.toInt + heading.delta.1.toInt [ZMOD s.width.toInt] ∧
      q.y.toInt ≡ p.y.toInt + heading.delta.2.toInt [ZMOD s.height.toInt] := by
  obtain ⟨r, hr, hq⟩ := bind_eq_ok.mp h
  obtain ⟨hx, hy⟩ := Position.shift_eq_ok.mp hr
  rw [← hx, ← hy]
  exact wrap_modEq hq

/-- Every place is that of a position on the board. -/
theorem exists_place {i : Nat} (hi : i < s.rowCount * s.columns) :
    ∃ p, s.Holds p ∧ s.place p = i := by
  have hw := s.natCast_columns
  have hh := s.natCast_rowCount
  have hpos : 0 < s.columns := Nat.pos_of_ne_zero fun h => by simp [h] at hi
  have hcol : i % s.columns < s.columns := Nat.mod_lt i hpos
  have hrow : i / s.columns < s.rowCount := Nat.div_lt_of_lt_mul (by rwa [Nat.mul_comm])
  obtain ⟨p, hp, hx, hy⟩ := s.exists_holds_modEq (i % s.columns : Nat) (i / s.columns : Nat)
  refine ⟨p, hp, ?_⟩
  have hxw : ((i % s.columns : Nat) : Int) < s.width.toInt := hw ▸ Int.ofNat_lt.mpr hcol
  have hyh : ((i / s.columns : Nat) : Int) < s.height.toInt := hh ▸ Int.ofNat_lt.mpr hrow
  have ex := coordinate_eq hx hp.x_nonneg hp.x_lt (Int.natCast_nonneg _) hxw
  have ey := coordinate_eq hy hp.y_nonneg hp.y_lt (Int.natCast_nonneg _) hyh
  rw [place, ex, ey, Int.toNat_natCast, Int.toNat_natCast, Nat.mul_comm]
  exact Nat.div_add_mod i s.columns

end Shape

namespace Motion

variable {m : Motion} {s : Shape} {p p' q q' : Position}

/-- The sign with which a motion takes columns. -/
def sign (m : Motion) : Int := if m.mirrored then -1 else 1

/-- What becomes of a direction. -/
def heading (m : Motion) (h : Heading) : Heading := if m.mirrored then h.mirror else h

/-- What an ant must do instead of an action. -/
def action (m : Motion) (a : Action) : Action := if m.mirrored then a.mirror else a

/-- The motion back. -/
def inverse (m : Motion) : Motion := ⟨m.mirrored, -(m.sign * m.dx), -m.dy⟩

theorem sign_mul_sign (m : Motion) : m.sign * m.sign = 1 := by
  unfold sign
  split <;> rfl

theorem delta_heading (m : Motion) (h : Heading) :
    (m.heading h).delta.1.toInt = m.sign * h.delta.1.toInt ∧
      (m.heading h).delta.2 = h.delta.2 := by
  unfold heading sign
  cases m.mirrored <;> cases h <;> exact ⟨rfl, rfl⟩

/-- `p` goes to `q`, or to where `q` is brought over the edges. -/
structure Sends (m : Motion) (s : Shape) (p q : Position) : Prop where
  x : q.x.toInt ≡ m.sign * p.x.toInt + m.dx [ZMOD s.width.toInt]
  y : q.y.toInt ≡ p.y.toInt + m.dy [ZMOD s.height.toInt]

theorem exists_sends (m : Motion) (s : Shape) (p : Position) : ∃ q, s.Holds q ∧ m.Sends s p q := by
  obtain ⟨q, hq, hx, hy⟩ := s.exists_holds_modEq (m.sign * p.x.toInt + m.dx) (p.y.toInt + m.dy)
  exact ⟨q, hq, hx, hy⟩

namespace Sends

theorem wrap (h : m.Sends s p q) (hp : p.wrap s.width s.height = .ok p')
    (hq : q.wrap s.width s.height = .ok q') : m.Sends s p' q' := by
  obtain ⟨px, py⟩ := Shape.wrap_modEq hp
  obtain ⟨qx, qy⟩ := Shape.wrap_modEq hq
  exact ⟨(qx.trans h.x).trans ((px.symm.mul_left m.sign).add_right m.dx),
    (qy.trans h.y).trans (py.symm.add_right m.dy)⟩

/-- The neighbour in a direction goes to the neighbour in the direction turned. -/
theorem step {d : Heading} (h : m.Sends s p q) (hp : p.step d s.width s.height = .ok p')
    (hq : q.step (m.heading d) s.width s.height = .ok q') : m.Sends s p' q' := by
  obtain ⟨px, py⟩ := Shape.step_modEq hp
  obtain ⟨qx, qy⟩ := Shape.step_modEq hq
  obtain ⟨dx, dy⟩ := m.delta_heading d
  rw [dx] at qx
  rw [dy] at qy
  constructor
  · calc q'.x.toInt
        ≡ q.x.toInt + m.sign * d.delta.1.toInt [ZMOD s.width.toInt] := qx
      _ ≡ m.sign * p.x.toInt + m.dx + m.sign * d.delta.1.toInt [ZMOD s.width.toInt] :=
        h.x.add_right _
      _ = m.sign * (p.x.toInt + d.delta.1.toInt) + m.dx := by rw [Int.mul_add]; omega
      _ ≡ m.sign * p'.x.toInt + m.dx [ZMOD s.width.toInt] :=
        (px.symm.mul_left m.sign).add_right m.dx
  · calc q'.y.toInt
        ≡ q.y.toInt + d.delta.2.toInt [ZMOD s.height.toInt] := qy
      _ ≡ p.y.toInt + m.dy + d.delta.2.toInt [ZMOD s.height.toInt] := h.y.add_right _
      _ = p.y.toInt + d.delta.2.toInt + m.dy := by omega
      _ ≡ p'.y.toInt + m.dy [ZMOD s.height.toInt] := py.symm.add_right m.dy

theorem inverse (h : m.Sends s p q) : m.inverse.Sends s q p := by
  have hsign : m.inverse.sign = m.sign := rfl
  constructor
  · have hx := h.x.mul_left m.sign
    rw [Int.mul_add, ← Int.mul_assoc, m.sign_mul_sign, Int.one_mul] at hx
    calc p.x.toInt
        = p.x.toInt + m.sign * m.dx + -(m.sign * m.dx) := by omega
      _ ≡ m.sign * q.x.toInt + -(m.sign * m.dx) [ZMOD s.width.toInt] := hx.symm.add_right _
      _ = m.inverse.sign * q.x.toInt + m.inverse.dx := rfl
  · calc p.y.toInt
        = p.y.toInt + m.dy + -m.dy := by omega
      _ ≡ q.y.toInt + -m.dy [ZMOD s.height.toInt] := h.y.symm.add_right _

theorem right_unique (h : m.Sends s p q) (h' : m.Sends s p q') (hq : s.Holds q)
    (hq' : s.Holds q') : q = q' :=
  Shape.eq_of_modEq hq hq' (h.x.trans h'.x.symm) (h.y.trans h'.y.symm)

theorem left_unique (h : m.Sends s p q) (h' : m.Sends s p' q) (hp : s.Holds p)
    (hp' : s.Holds p') : p = p' :=
  h.inverse.right_unique h'.inverse hp hp'

end Sends

theorem inverse_inverse (m : Motion) : m.inverse.inverse = m := by
  obtain ⟨mirrored, dx, dy⟩ := m
  cases mirrored <;> simp [inverse, sign]

end Motion

/-! ## Food -/

namespace Board

variable {b b' : Board}

/-- The places with food. -/
def foodPlaces (b : Board) : Finset (Fin b.cells.size) :=
  Finset.univ.filter fun i => b.cells[i] = .food

theorem card_foodPlaces (b : Board) : b.foodPlaces.card = b.foodCount := by
  have h := Fin.card_filter_univ_eq_vector_get_eq_count Cell.food
    (⟨b.cells.toList, b.cells.length_toList⟩ : List.Vector Cell b.cells.size)
  rw [foodCount, ← Array.count_toList]
  exact h

/-- A board has no more food than another on which each of its pieces is found, at a place
that no other piece has. -/
theorem foodCount_le {r : Nat → Nat → Prop}
    (hfind : ∀ i, b.cells[i]? = some .food → ∃ j, b'.cells[j]? = some .food ∧ r i j)
    (hown : ∀ i i' j, r i j → r i' j → i = i') : b.foodCount ≤ b'.foodCount := by
  rw [← card_foodPlaces, ← card_foodPlaces]
  refine Finset.card_le_card_of_forall_subsingleton
    (fun (i : Fin b.cells.size) (j : Fin b'.cells.size) => r i j) ?_ ?_
  · intro i hi
    rw [foodPlaces, Finset.mem_filter_univ] at hi
    obtain ⟨j, hj, hr⟩ := hfind i (Array.getElem?_eq_some_iff.mpr ⟨i.isLt, hi⟩)
    obtain ⟨hlt, hfood⟩ := Array.getElem?_eq_some_iff.mp hj
    exact ⟨⟨j, hlt⟩, Finset.mem_filter_univ _ |>.mpr hfood, hr⟩
  · rintro j - i ⟨-, hi⟩ i' ⟨-, hi'⟩
    exact Fin.ext (hown i i' j hi hi')

end Board

/-! ## Boards laid out anew -/

namespace Motion

variable {m : Motion} {b b' : Board} {p q : Position}

/-- `b'` is `b` laid out anew: each cell has gone where its position goes. -/
structure Lays (m : Motion) (b b' : Board) : Prop where
  shape : b'.toShape = b.toShape
  cell : ∀ p q, b.Holds p → b.Holds q → m.Sends b.toShape p q →
    b'.cells[b.place q]? = b.cells[b.place p]?

namespace Lays

/-- Boards are laid out anew if their cells read so. -/
theorem of_get (hb : b.Roomy) (hshape : b'.toShape = b.toShape)
    (h : ∀ p q, b.Holds p → b.Holds q → m.Sends b.toShape p q → b'.get q = b.get p) :
    m.Lays b b' where
  shape := hshape
  cell := by
    intro p q hp hq hs
    have hb' : b'.Roomy := hshape ▸ hb
    have hq' : b'.Holds q := hshape ▸ hq
    have hplace : b'.place q = b.place q := by rw [hshape]
    ext c
    rw [← Board.get_of_holds hb hp, ← hplace, ← Board.get_of_holds hb' hq', h p q hp hq hs]

theorem get (h : m.Lays b b') (hb : b.Roomy) (hp : b.Holds p) (hq : b.Holds q)
    (hs : m.Sends b.toShape p q) : b'.get q = b.get p := by
  have hb' : b'.Roomy := h.shape ▸ hb
  have hq' : b'.Holds q := h.shape ▸ hq
  have hlt : b.place p < b.cells.size := b.size_eq ▸ Shape.place_lt hp
  have hc := Array.getElem?_eq_getElem hlt
  rw [(Board.get_of_holds hb hp).mpr hc, Board.get_of_holds hb' hq', h.shape, h.cell p q hp hq hs, hc]

theorem inverse (h : m.Lays b b') : m.inverse.Lays b' b where
  shape := h.shape.symm
  cell := by
    rw [h.shape]
    intro q p hq hp hs
    have hs := hs.inverse
    rw [m.inverse_inverse] at hs
    exact (h.cell p q hp hq hs).symm

theorem foodCount_le (h : m.Lays b b') : b.foodCount ≤ b'.foodCount := by
  refine Board.foodCount_le (r := fun i j => ∃ p q, b.Holds p ∧ b.Holds q ∧
    m.Sends b.toShape p q ∧ b.place p = i ∧ b.place q = j) ?_ ?_
  · intro i hi
    obtain ⟨hlt, -⟩ := Array.getElem?_eq_some_iff.mp hi
    obtain ⟨p, hp, rfl⟩ := Shape.exists_place (b.size_eq ▸ hlt)
    obtain ⟨q, hq, hs⟩ := m.exists_sends b.toShape p
    exact ⟨b.place q, (h.cell p q hp hq hs).trans hi, p, q, hp, hq, hs, rfl, rfl⟩
  · rintro _ _ _ ⟨p, q, hp, hq, hs, rfl, rfl⟩ ⟨p', q', hp', hq', hs', rfl, hplace⟩
    obtain rfl := Shape.place_inj hq' hq hplace
    rw [hs.left_unique hs' hp hp']

/-- Nothing is lost or gained. -/
theorem foodCount_eq (h : m.Lays b b') : b'.foodCount = b.foodCount :=
  Nat.le_antisymm h.inverse.foodCount_le h.foodCount_le

/-- Boards remain alike when a cell and its image are written alike. -/
theorem write {b₁ b₁' : Board} {c : Cell} (h : m.Lays b b') (hp : b.Holds p) (hq : b.Holds q)
    (hs : m.Sends b.toShape p q) (hshape : b₁.toShape = b.toShape)
    (hshape' : b₁'.toShape = b'.toShape)
    (hcells : b₁.cells = b.cells.setIfInBounds (b.place p) c)
    (hcells' : b₁'.cells = b'.cells.setIfInBounds (b.place q) c) : m.Lays b₁ b₁' where
  shape := by rw [hshape', h.shape, hshape]
  cell := by
    rw [hshape]
    intro p' q' hp' hq' hs'
    rw [hcells, hcells', Array.getElem?_setIfInBounds, Array.getElem?_setIfInBounds]
    have hsize : b'.cells.size = b.cells.size := by rw [b'.size_eq, b.size_eq, h.shape]
    by_cases hhere : p = p'
    · obtain rfl := hhere
      obtain rfl := hs.right_unique hs' hq hq'
      rw [if_pos rfl, if_pos rfl, hsize, b.size_eq, if_pos (Shape.place_lt hp),
        if_pos (Shape.place_lt hq)]
    · have hp_ne : b.place p ≠ b.place p' := fun e => hhere (Shape.place_inj hp hp' e)
      have hq_ne : b.place q ≠ b.place q' := fun e => by
        obtain rfl := Shape.place_inj hq hq' e
        exact hhere (hs.left_unique hs' hp hp')
      rw [if_neg hp_ne, if_neg hq_ne]
      exact h.cell p' q' hp' hq' hs'

end Lays
end Motion
end AntTrail
