import AntTrail.Board
import AntTrail.Proofs.Reading

/-!
# Positions on the torus

Wrapping is the remainder on integers, wherever it does not overflow
(`wrapCoordinate_eq_ok`): at the positions that the board clears (`Shape.Clears`), and
at all of them if no side is beyond `2^30` (`Shape.Roomy`). A position on the board is
where its own cell is, each at a place of its own (`place_lt`, `place_inj`), so reading
and writing a cell is reading and writing its place.
-/
namespace AntTrail

/-! ## Coordinates -/

namespace Checked

theorem narrow_ok {fault : Fault} {n : Int} (h : Fits n) :
    ∃ c, narrow fault n = .ok c ∧ c.toInt = n :=
  ⟨Int32.ofInt n, by rw [narrow, if_pos h], toInt_ofInt h⟩

/-- Dividing by a positive number never overflows. -/
theorem rem_eq_ok_iff {a b c : Int32} (hb : 0 < b.toInt) :
    rem a b = .ok c ↔ c.toInt = a.toInt.tmod b.toInt := by
  obtain ⟨hlow, hhigh⟩ := fits_toInt a
  -- the quotient lies between zero and the dividend
  have hq : Fits (a.toInt.tdiv b.toInt) := by
    by_cases ha : 0 ≤ a.toInt
    · have h1 := Int.tdiv_le_self b.toInt ha
      have h2 := Int.tdiv_nonneg ha (Int.le_of_lt hb)
      constructor <;> omega
    · have hn : 0 ≤ -a.toInt := by omega
      have h1 := Int.tdiv_le_self b.toInt hn
      have h2 := Int.tdiv_nonneg hn (Int.le_of_lt hb)
      rw [Int.neg_tdiv] at h1 h2
      constructor <;> omega
  have hr : Fits (a.toInt.tmod b.toInt) := by
    obtain ⟨-, hb'⟩ := fits_toInt b
    have h1 := Int.tmod_lt_of_pos a.toInt hb
    have h2 := Int.lt_tmod_of_pos a.toInt hb
    constructor <;> omega
  rw [rem, if_neg (by omega), if_pos hq, Except.ok.injEq]
  constructor
  · rintro rfl
    exact toInt_ofInt hr
  · intro hc
    rw [← Int32.toInt_inj, toInt_ofInt hr, hc]

end Checked

namespace Position

/-- The sum in the middle is what can overflow. -/
theorem wrapCoordinate_eq_ok {n size c : Int32} (hs : 0 < size.toInt) :
    wrapCoordinate n size = .ok c ↔
      n.toInt.tmod size.toInt + size.toInt < 2147483648 ∧ c.toInt = n.toInt % size.toInt := by
  have hlow := Int.lt_tmod_of_pos n.toInt hs
  -- one size more makes a negative remainder positive, and the second remainder
  -- takes it off again where it was not needed
  have hmod : (n.toInt.tmod size.toInt + size.toInt).tmod size.toInt = n.toInt % size.toInt := by
    rw [Int.tmod_eq_emod_of_nonneg (by omega), Int.add_emod_right, Int.tmod_eq_emod]
    split
    · rw [Int.natCast_zero, Int.sub_zero, Int.emod_emod]
    · rw [Int.natAbs_of_nonneg (Int.le_of_lt hs), Int.sub_emod_right, Int.emod_emod]
  rw [wrapCoordinate, bind_eq_ok]
  constructor
  · rintro ⟨r, h₁, h⟩
    obtain ⟨s, h₂, h₃⟩ := bind_eq_ok.mp h
    rw [Checked.rem_eq_ok_iff hs] at h₁ h₃
    rw [Checked.add_eq_ok_iff, h₁] at h₂
    rw [h₂, hmod] at h₃
    have := s.toInt_lt
    exact ⟨by omega, h₃⟩
  · rintro ⟨hsum, hc⟩
    have hhigh := Int.tmod_lt_of_pos n.toInt hs
    have hsize := size.toInt_lt
    have hr : Checked.Fits (n.toInt.tmod size.toInt) := by constructor <;> omega
    have hadd : Checked.Fits (n.toInt.tmod size.toInt + size.toInt) := by constructor <;> omega
    refine ⟨Int32.ofInt (n.toInt.tmod size.toInt),
      (Checked.rem_eq_ok_iff hs).mpr (Checked.toInt_ofInt hr), ?_⟩
    refine bind_eq_ok.mpr ⟨Int32.ofInt (n.toInt.tmod size.toInt + size.toInt), ?_, ?_⟩
    · rw [Checked.add_eq_ok_iff, Checked.toInt_ofInt hr, Checked.toInt_ofInt hadd]
    · rw [Checked.rem_eq_ok_iff hs, Checked.toInt_ofInt hadd, hmod, hc]

theorem wrapCoordinate_ok {n size : Int32} (hs : 0 < size.toInt)
    (h : n.toInt.tmod size.toInt + size.toInt < 2147483648) :
    ∃ c, wrapCoordinate n size = .ok c := by
  have hc : Checked.Fits (n.toInt % size.toInt) := by
    have h1 := Int.emod_nonneg n.toInt (Int.ne_of_gt hs)
    have h2 := Int.emod_lt_of_pos n.toInt hs
    have h3 := size.toInt_lt
    constructor <;> omega
  exact ⟨Int32.ofInt (n.toInt % size.toInt),
    (wrapCoordinate_eq_ok hs).mpr ⟨h, Checked.toInt_ofInt hc⟩⟩

/-- Nothing else can fail: dividing by a size never does. -/
theorem wrapCoordinate_eq_error {n size : Int32} (hs : 0 < size.toInt)
    (h : ¬n.toInt.tmod size.toInt + size.toInt < 2147483648) :
    wrapCoordinate n size = .error .addOverflow := by
  have hr : Checked.Fits (n.toInt.tmod size.toInt) := by
    have h1 := Int.lt_tmod_of_pos n.toInt hs
    have h2 := Int.tmod_lt_of_pos n.toInt hs
    have h3 := size.toInt_lt
    constructor <;> omega
  have hsum : ¬Checked.Fits (n.toInt.tmod size.toInt + size.toInt) := fun hf => h hf.2
  rw [wrapCoordinate, (Checked.rem_eq_ok_iff hs).mpr (Checked.toInt_ofInt hr), ok_bind,
    Checked.add, Checked.toInt_ofInt hr, Checked.narrow, if_neg hsum]
  rfl

theorem eq_of_toInt {p q : Position} (hx : p.x.toInt = q.x.toInt) (hy : p.y.toInt = q.y.toInt) :
    p = q := by
  obtain ⟨px, py⟩ := p
  obtain ⟨qx, qy⟩ := q
  exact congr (congrArg mk (Int32.toInt_inj.mp hx)) (Int32.toInt_inj.mp hy)

theorem shift_eq_ok {p q : Position} {dx dy : Int32} :
    p.shift dx dy = .ok q ↔
      q.x.toInt = p.x.toInt + dx.toInt ∧ q.y.toInt = p.y.toInt + dy.toInt := by
  rw [← Checked.add_eq_ok_iff, ← Checked.add_eq_ok_iff, shift, bind_eq_ok]
  constructor
  · rintro ⟨x, hx, h⟩
    obtain ⟨y, hy, h⟩ := bind_eq_ok.mp h
    obtain rfl := pure_eq_ok.mp h
    exact ⟨hx, hy⟩
  · rintro ⟨hx, hy⟩
    exact ⟨q.x, hx, bind_eq_ok.mpr ⟨q.y, hy, rfl⟩⟩

end Position

/-! ## Positions on the board -/

namespace Shape

variable {s : Shape} {p q : Position}

/-- A position on the board itself. -/
structure Holds (s : Shape) (p : Position) : Prop where
  x_nonneg : 0 ≤ p.x.toInt
  x_lt : p.x.toInt < s.width.toInt
  y_nonneg : 0 ≤ p.y.toInt
  y_lt : p.y.toInt < s.height.toInt

/-- Sides with which wrapping never overflows. -/
structure Roomy (s : Shape) : Prop where
  width_le : s.width.toInt ≤ 1073741824
  height_le : s.height.toInt ≤ 1073741824

/-- Wrapping the position does not overflow. -/
structure Clears (s : Shape) (p : Position) : Prop where
  x_lt : p.x.toInt.tmod s.width.toInt + s.width.toInt < 2147483648
  y_lt : p.y.toInt.tmod s.height.toInt + s.height.toInt < 2147483648

theorem natCast_columns (s : Shape) : (s.columns : Int) = s.width.toInt :=
  Int.toNat_of_nonneg (Int.le_of_lt s.width_pos)

theorem natCast_rowCount (s : Shape) : (s.rowCount : Int) = s.height.toInt :=
  Int.toNat_of_nonneg (Int.le_of_lt s.height_pos)

/-- The positions on the board, row after row. -/
def positions (s : Shape) : List Position :=
  (List.range s.rowCount).flatMap fun y =>
    (List.range s.columns).map fun x => ⟨Int32.ofNat x, Int32.ofNat y⟩

theorem mem_positions : p ∈ s.positions ↔ s.Holds p := by
  have hw := s.natCast_columns
  have hh := s.natCast_rowCount
  have hw' := s.width.toInt_lt
  have hh' := s.height.toInt_lt
  simp only [positions, List.mem_flatMap, List.mem_map, List.mem_range]
  constructor
  · rintro ⟨y, hy, x, hx, rfl⟩
    have ex : (Int32.ofNat x).toInt = x := Int32.toInt_ofNat_of_lt (by omega)
    have ey : (Int32.ofNat y).toInt = y := Int32.toInt_ofNat_of_lt (by omega)
    constructor <;> dsimp only <;> omega
  · rintro ⟨hx, hxw, hy, hyh⟩
    refine ⟨p.y.toInt.toNat, by omega, p.x.toInt.toNat, by omega, ?_⟩
    have ex : Int32.ofNat p.x.toInt.toNat = p.x :=
      Int32.toInt_inj.mp ((Int32.toInt_ofNat_of_lt (by omega)).trans (Int.toNat_of_nonneg hx))
    have ey : Int32.ofNat p.y.toInt.toNat = p.y :=
      Int32.toInt_inj.mp ((Int32.toInt_ofNat_of_lt (by omega)).trans (Int.toNat_of_nonneg hy))
    rw [ex, ey]

instance {P : Position → Prop} [DecidablePred P] : Decidable (∀ p, s.Holds p → P p) :=
  decidable_of_iff (∀ p ∈ s.positions, P p) (by simp only [mem_positions])

/-- Where the cell of a position on the board stands, row after row. -/
def place (s : Shape) (p : Position) : Nat := p.y.toInt.toNat * s.columns + p.x.toInt.toNat

theorem place_lt (hp : s.Holds p) : s.place p < s.rowCount * s.columns := by
  obtain ⟨hx, hxw, hy, hyh⟩ := hp
  have hcol : p.x.toInt.toNat < s.columns := by
    unfold columns
    omega
  have hrow : p.y.toInt.toNat + 1 ≤ s.rowCount := by
    unfold rowCount
    omega
  calc s.place p < p.y.toInt.toNat * s.columns + s.columns := Nat.add_lt_add_left hcol _
    _ = (p.y.toInt.toNat + 1) * s.columns := (Nat.succ_mul ..).symm
    _ ≤ s.rowCount * s.columns := Nat.mul_le_mul_right _ hrow

/-- No two positions on the board share a place. -/
theorem place_inj (hp : s.Holds p) (hq : s.Holds q) (h : s.place p = s.place q) : p = q := by
  obtain ⟨hx, hxw, hy, hyh⟩ := hp
  obtain ⟨gx, gxw, gy, gyh⟩ := hq
  have hcol : p.x.toInt.toNat < s.columns := by
    unfold columns
    omega
  have gcol : q.x.toInt.toNat < s.columns := by
    unfold columns
    omega
  -- row and column are the quotient and the remainder of the place
  have hdiv := congrArg (· / s.columns) h
  have hmod := congrArg (· % s.columns) h
  have hpos : 0 < s.columns := by omega
  simp only [place, Nat.mul_comm _ s.columns, Nat.mul_add_div hpos, Nat.div_eq_of_lt hcol,
    Nat.div_eq_of_lt gcol, Nat.add_zero, Nat.mul_add_mod, Nat.mod_eq_of_lt hcol,
    Nat.mod_eq_of_lt gcol] at hdiv hmod
  exact Position.eq_of_toInt (by omega) (by omega)

theorem wrap_eq_ok (h : p.wrap s.width s.height = .ok q) :
    q.x.toInt = p.x.toInt % s.width.toInt ∧ q.y.toInt = p.y.toInt % s.height.toInt := by
  obtain ⟨x, h₁, h⟩ := bind_eq_ok.mp h
  obtain ⟨y, h₂, h₃⟩ := bind_eq_ok.mp h
  obtain rfl := pure_eq_ok.mp h₃
  rw [Position.wrapCoordinate_eq_ok s.width_pos] at h₁
  rw [Position.wrapCoordinate_eq_ok s.height_pos] at h₂
  exact ⟨h₁.2, h₂.2⟩

theorem holds_wrap (h : p.wrap s.width s.height = .ok q) : s.Holds q := by
  obtain ⟨hx, hy⟩ := wrap_eq_ok h
  constructor
  · rw [hx]
    exact Int.emod_nonneg _ (Int.ne_of_gt s.width_pos)
  · rw [hx]
    exact Int.emod_lt_of_pos _ s.width_pos
  · rw [hy]
    exact Int.emod_nonneg _ (Int.ne_of_gt s.height_pos)
  · rw [hy]
    exact Int.emod_lt_of_pos _ s.height_pos

/-- Wrapping leaves a position on the board where it is. -/
theorem wrap_of_holds (hp : s.Holds p) (h : p.wrap s.width s.height = .ok q) : q = p := by
  obtain ⟨hx, hy⟩ := wrap_eq_ok h
  rw [Int.emod_eq_of_lt hp.x_nonneg hp.x_lt] at hx
  rw [Int.emod_eq_of_lt hp.y_nonneg hp.y_lt] at hy
  exact Position.eq_of_toInt hx hy

theorem holds_step {heading : Heading} (h : p.step heading s.width s.height = .ok q) :
    s.Holds q := by
  obtain ⟨r, -, hr⟩ := bind_eq_ok.mp h
  exact holds_wrap hr

theorem Clears.wrap_ok (h : s.Clears p) : ∃ q, p.wrap s.width s.height = .ok q := by
  obtain ⟨x, hx⟩ := Position.wrapCoordinate_ok s.width_pos h.x_lt
  obtain ⟨y, hy⟩ := Position.wrapCoordinate_ok s.height_pos h.y_lt
  exact ⟨⟨x, y⟩, bind_eq_ok.mpr ⟨x, hx, bind_eq_ok.mpr ⟨y, hy, rfl⟩⟩⟩

theorem clears_of_wrap (h : p.wrap s.width s.height = .ok q) : s.Clears p := by
  obtain ⟨x, hx, h⟩ := bind_eq_ok.mp h
  obtain ⟨y, hy, -⟩ := bind_eq_ok.mp h
  exact ⟨((Position.wrapCoordinate_eq_ok s.width_pos).mp hx).1,
    ((Position.wrapCoordinate_eq_ok s.height_pos).mp hy).1⟩

theorem wrap_eq_error (h : ¬s.Clears p) : p.wrap s.width s.height = .error .addOverflow := by
  by_cases hx : p.x.toInt.tmod s.width.toInt + s.width.toInt < 2147483648
  · obtain ⟨x, hw⟩ := Position.wrapCoordinate_ok s.width_pos hx
    have hy : ¬p.y.toInt.tmod s.height.toInt + s.height.toInt < 2147483648 := fun hy => h ⟨hx, hy⟩
    rw [Position.wrap, hw, ok_bind, Position.wrapCoordinate_eq_error s.height_pos hy]
    rfl
  · rw [Position.wrap, Position.wrapCoordinate_eq_error s.width_pos hx]
    rfl

/-- With sides of at most `2^30` there is no position that overflows. -/
theorem Roomy.clears (hs : s.Roomy) (p : Position) : s.Clears p := by
  obtain ⟨hw, hh⟩ := hs
  have h1 := Int.tmod_lt_of_pos p.x.toInt s.width_pos
  have h2 := Int.tmod_lt_of_pos p.y.toInt s.height_pos
  exact ⟨by omega, by omega⟩

/-- From a position on the board, no neighbour is out of reach. -/
theorem Roomy.step_ok (hs : s.Roomy) (hp : s.Holds p) (heading : Heading) :
    ∃ q, p.step heading s.width s.height = .ok q := by
  obtain ⟨hx, hxw, hy, hyh⟩ := hp
  obtain ⟨hw, hh⟩ := hs
  -- a coordinate of at most `2^30` has room for one more either way
  have hd : Checked.Fits (p.x.toInt + heading.delta.1.toInt) ∧
      Checked.Fits (p.y.toInt + heading.delta.2.toInt) := by
    cases heading <;> simp [Heading.delta, Checked.Fits] <;> omega
  obtain ⟨x, hx', -⟩ := Checked.narrow_ok hd.1
  obtain ⟨y, hy', -⟩ := Checked.narrow_ok hd.2
  obtain ⟨q, hq⟩ := (Roomy.clears ⟨hw, hh⟩ ⟨x, y⟩).wrap_ok
  refine ⟨q, bind_eq_ok.mpr ⟨⟨x, y⟩, ?_, hq⟩⟩
  exact bind_eq_ok.mpr ⟨x, hx', bind_eq_ok.mpr ⟨y, hy', rfl⟩⟩

end Shape

/-! ## Cells -/

namespace Board

variable {b b' : Board} {p : Position} {c : Cell} {i : Nat}

/-- A cell that can be looked up stands at the place of a position on the board. -/
theorem index_eq_ok (h : b.index p = .ok i) :
    ∃ q, p.wrap b.width b.height = .ok q ∧ b.Holds q ∧ i = b.place q := by
  obtain ⟨q, h₁, h₂⟩ := bind_eq_ok.mp h
  obtain rfl := pure_eq_ok.mp h₂
  exact ⟨q, h₁, Shape.holds_wrap h₁, rfl⟩

theorem index_lt (h : b.index p = .ok i) : i < b.cells.size := by
  obtain ⟨q, -, hq, rfl⟩ := index_eq_ok h
  rw [b.size_eq]
  exact Shape.place_lt hq

theorem index_of_holds (hp : b.Holds p) (h : b.index p = .ok i) : i = b.place p := by
  obtain ⟨q, hw, -, rfl⟩ := index_eq_ok h
  rw [Shape.wrap_of_holds hp hw]

theorem index_ok (h : b.Clears p) : ∃ i, b.index p = .ok i := by
  obtain ⟨q, hq⟩ := h.wrap_ok
  exact ⟨_, bind_eq_ok.mpr ⟨q, hq, rfl⟩⟩

/-- Looking a cell up fails only where wrapping overflows. -/
theorem get_eq_ok : b.get p = .ok c ↔ ∃ i, b.index p = .ok i ∧ b.cells[i]? = some c := by
  rw [get, bind_eq_ok]
  constructor
  · rintro ⟨i, h₁, h⟩
    rw [dif_pos (index_lt h₁), pure_eq_ok] at h
    exact ⟨i, h₁, by rw [Array.getElem?_eq_getElem (index_lt h₁), h]⟩
  · rintro ⟨i, h₁, h⟩
    rw [Array.getElem?_eq_getElem (index_lt h₁), Option.some.injEq] at h
    exact ⟨i, h₁, by rw [dif_pos (index_lt h₁), h]; rfl⟩

/-- On the board itself, looking a cell up is looking up its place. -/
theorem get_of_holds (hb : b.Roomy) (hp : b.Holds p) :
    b.get p = .ok c ↔ b.cells[b.place p]? = some c := by
  rw [get_eq_ok]
  constructor
  · rintro ⟨i, hi, hc⟩
    rwa [index_of_holds hp hi] at hc
  · intro hc
    obtain ⟨i, hi⟩ := index_ok (hb.clears p)
    exact ⟨i, hi, by rwa [index_of_holds hp hi]⟩

/-- Writing a cell changes that cell and nothing else. -/
theorem set_eq_ok (h : b.set p c = .ok b') :
    ∃ i, b.index p = .ok i ∧ b'.toShape = b.toShape ∧ b'.cells = b.cells.setIfInBounds i c := by
  obtain ⟨i, h₁, h⟩ := bind_eq_ok.mp h
  rw [dif_pos (index_lt h₁), pure_eq_ok] at h
  subst h
  exact ⟨i, h₁, rfl, by rw [Array.setIfInBounds, dif_pos (index_lt h₁)]⟩

theorem set_ok (h : b.index p = .ok i) (c : Cell) : ∃ b', b.set p c = .ok b' :=
  ⟨_, bind_eq_ok.mpr ⟨i, h, dif_pos (index_lt h)⟩⟩

end Board
end AntTrail
