import AntTrail.Trial
import AntTrail.Proofs.Board.Torus

/-!
# One action of a trial

What eating and acting do when they succeed (`eat_cases`, `act_cases`), what holds
between a trial and any later state of it (`Trial.Later`), and that on a board whose
sides leave room for wrapping nothing but the budget can end a trial early
(`act_ok`, `foodAhead_ok`).
-/
namespace AntTrail.Trial

variable {t t' : Trial} {a : Action}

/-- The place where the ant stands. -/
def here (t : Trial) : Nat := t.board.place t.position

/-- The ant stands on the board. -/
def Placed (t : Trial) : Prop := t.board.Holds t.position

/-! ## What happens -/

/-- Eating does nothing, or it takes the food where the ant stands. -/
theorem eat_cases (hp : t.Placed) (h : t.eat = .ok t') :
    (t.board.cells[t.here]? ≠ some .food ∧ t' = t) ∨
    (t.board.cells[t.here]? = some .food ∧ ∃ board : Board,
      board.toShape = t.board.toShape ∧
      board.cells = t.board.cells.setIfInBounds t.here .eaten ∧
      t' = { t with board, foodEaten := t.foodEaten + 1 }) := by
  obtain ⟨c, hget, h⟩ := bind_eq_ok.mp h
  obtain ⟨i, hi, hc⟩ := Board.get_eq_ok.mp hget
  obtain rfl : i = t.here := Board.index_of_holds hp hi
  cases c with
  | food =>
    -- the cell that is written is the one that was read
    obtain ⟨board, hset, h⟩ := bind_eq_ok.mp h
    obtain ⟨j, hj, hshape, hcells⟩ := Board.set_eq_ok hset
    obtain rfl : j = t.here := Board.index_of_holds hp hj
    exact .inr ⟨hc, board, hshape, hcells, (pure_eq_ok.mp h).symm⟩
  | empty => exact .inl ⟨by simp [hc], (pure_eq_ok.mp h).symm⟩
  | eaten => exact .inl ⟨by simp [hc], (pure_eq_ok.mp h).symm⟩

/-- An action takes a step off the budget. A turn changes the heading, and a move
the position, where the ant then eats. -/
theorem act_cases (h : t.act a = .ok t') :
    ∃ stepsLeft : Int32, stepsLeft.toInt = t.stepsLeft.toInt - 1 ∧
      ((∃ heading, t' = { t with stepsLeft, heading }) ∨
        ∃ position, t.ahead = .ok position ∧ eat { t with stepsLeft, position } = .ok t') := by
  obtain ⟨stepsLeft, hs, h⟩ := bind_eq_ok.mp h
  refine ⟨stepsLeft, Checked.sub_eq_ok_iff.mp hs, ?_⟩
  cases a with
  | move =>
    obtain ⟨position, hp, he⟩ := bind_eq_ok.mp h
    exact .inr ⟨position, hp, he⟩
  | turnLeft => exact .inl ⟨_, (pure_eq_ok.mp h).symm⟩
  | turnRight => exact .inl ⟨_, (pure_eq_ok.mp h).symm⟩

/-! ## What is kept -/

/-- `t'` can come after `t`. The board keeps its shape and the ant stays on it, and
what has gone from the board has been counted. -/
structure Later (t t' : Trial) : Prop where
  shape : t'.board.toShape = t.board.toShape
  placed : t.Placed → t'.Placed
  foodTotal : t'.foodTotal = t.foodTotal
  foodCount : t'.board.foodCount + t'.foodEaten = t.board.foodCount + t.foodEaten
  foodEaten : t.foodEaten ≤ t'.foodEaten
  stepsLeft : t'.stepsLeft.toInt ≤ t.stepsLeft.toInt

theorem finished_iff : t.finished ↔ t.stepsLeft.toInt ≤ 0 ∨ t.score ≤ 0 := by
  simp [finished]

namespace Later

theorem refl (t : Trial) : t.Later t := ⟨rfl, id, rfl, rfl, Nat.le_refl _, Int.le_refl _⟩

theorem trans {t'' : Trial} (h : t.Later t') (h' : t'.Later t'') : t.Later t'' where
  shape := h'.shape.trans h.shape
  placed := h'.placed ∘ h.placed
  foodTotal := h'.foodTotal.trans h.foodTotal
  foodCount := h'.foodCount.trans h.foodCount
  foodEaten := Nat.le_trans h.foodEaten h'.foodEaten
  stepsLeft := Int.le_trans h'.stepsLeft h.stepsLeft

/-- A trial that has finished stays so. -/
theorem finished (h : t.Later t') (hf : t.finished) : t'.finished := by
  have h1 := h.stepsLeft
  have h2 := h.foodEaten
  have h3 := congrArg Int32.toInt h.foodTotal
  rw [finished_iff] at hf ⊢
  unfold score at hf ⊢
  omega

end Later

/-- One piece of food less lies where it has been eaten. -/
theorem count_setIfInBounds_eaten {cells : Array Cell} {i : Nat} (h : cells[i]? = some .food) :
    (cells.setIfInBounds i .eaten).count .food + 1 = cells.count .food := by
  obtain ⟨hi, hc⟩ := Array.getElem?_eq_some_iff.mp h
  have hpos : 0 < cells.count .food := Array.count_pos_iff.mpr (hc ▸ Array.getElem_mem hi)
  rw [Array.setIfInBounds_def, dif_pos hi, Array.count_set hi, hc]
  simp
  omega

theorem eat_later (hp : t.Placed) (h : t.eat = .ok t') : t.Later t' := by
  rcases eat_cases hp h with ⟨-, rfl⟩ | ⟨hc, board, hshape, hcells, rfl⟩
  · exact .refl _
  · refine ⟨hshape, fun h => ?_, rfl, ?_, Nat.le_succ _, Int.le_refl _⟩
    · show board.toShape.Holds t.position
      rw [hshape]
      exact h
    · show board.cells.count .food + (t.foodEaten + 1) = t.board.cells.count .food + t.foodEaten
      have := count_setIfInBounds_eaten hc
      rw [hcells]
      omega

theorem act_later (h : t.act a = .ok t') : t.Later t' := by
  obtain ⟨stepsLeft, hs, ⟨heading, rfl⟩ | ⟨position, ha, he⟩⟩ := act_cases h
  · exact ⟨rfl, id, rfl, rfl, Nat.le_refl _, by show stepsLeft.toInt ≤ _; omega⟩
  · have hq : Placed { t with stepsLeft, position } := Shape.holds_step ha
    have hm : t.Later { t with stepsLeft, position } :=
      ⟨rfl, fun _ => hq, rfl, rfl, Nat.le_refl _, by show stepsLeft.toInt ≤ _; omega⟩
    exact hm.trans (eat_later hq he)

theorem position_eat (hp : t.Placed) (h : t.eat = .ok t') : t'.position = t.position := by
  rcases eat_cases hp h with ⟨-, rfl⟩ | ⟨-, board, -, -, rfl⟩
  · rfl
  · rfl

theorem heading_eat (hp : t.Placed) (h : t.eat = .ok t') : t'.heading = t.heading := by
  rcases eat_cases hp h with ⟨-, rfl⟩ | ⟨-, board, -, -, rfl⟩
  · rfl
  · rfl

theorem stepsLeft_eat (hp : t.Placed) (h : t.eat = .ok t') : t'.stepsLeft = t.stepsLeft := by
  rcases eat_cases hp h with ⟨-, rfl⟩ | ⟨-, board, -, -, rfl⟩
  · rfl
  · rfl

theorem stepsLeft_act (h : t.act a = .ok t') : t'.stepsLeft.toInt = t.stepsLeft.toInt - 1 := by
  obtain ⟨stepsLeft, hs, ⟨heading, rfl⟩ | ⟨position, ha, he⟩⟩ := act_cases h
  · exact hs
  · have hq : Placed { t with stepsLeft, position } := Shape.holds_step ha
    rw [stepsLeft_eat hq he]
    exact hs

/-! ## Beginning -/

/-- A trial begins where its settings say, brought onto the board, and the ant eats
there. -/
theorem start_cases {board : Board} {settings : TrialSettings} {total : Int32}
    (h : start board settings total = .ok t) :
    ∃ position, settings.start.wrap board.width board.height = .ok position ∧
      board.Holds position ∧
      eat ⟨board, position, settings.heading, settings.maxSteps, total, 0⟩ = .ok t := by
  obtain ⟨position, hp, he⟩ := bind_eq_ok.mp h
  exact ⟨position, hp, Shape.holds_wrap hp, he⟩

/-- What a trial has at its beginning. -/
theorem start_spec {board : Board} {settings : TrialSettings} {total : Int32}
    (h : start board settings total = .ok t) :
    settings.start.wrap board.width board.height = .ok t.position ∧ t.Placed ∧
      t.board.toShape = board.toShape ∧ t.stepsLeft = settings.maxSteps ∧
      t.foodTotal = total ∧ t.board.foodCount + t.foodEaten = board.foodCount := by
  obtain ⟨position, hw, hp, he⟩ := start_cases h
  have hq : Placed ⟨board, position, settings.heading, settings.maxSteps, total, 0⟩ := hp
  have hl := eat_later hq he
  refine ⟨?_, hl.placed hq, hl.shape, stepsLeft_eat hq he, hl.foodTotal, hl.foodCount⟩
  rw [position_eat hq he]
  exact hw

/-- No board has more food than cells, nor more cells than a 32-bit integer counts. -/
theorem foodCount_lt (board : Board) : (board.foodCount : Int) < 2147483648 := by
  have hc : board.foodCount ≤ board.rowCount * board.columns :=
    board.size_eq ▸ Array.count_le_size
  have ha := board.area_lt
  rw [← board.natCast_columns, ← board.natCast_rowCount, Int.mul_comm] at ha
  omega

/-- The food to score against is never less than what lies on the board. -/
theorem foodCount_le_of_resolveFood {board : Board} {settings : TrialSettings} {total : Int32}
    (h : resolveFood board settings = .ok total) : (board.foodCount : Int) ≤ total.toInt := by
  unfold resolveFood at h
  split at h
  · obtain rfl := Except.ok.inj h
    have hf := foodCount_lt board
    have ht : (Int32.ofNat board.foodCount).toInt = board.foodCount :=
      Int32.toInt_ofNat_of_lt (by omega)
    omega
  · split at h
    · next hle =>
      obtain rfl := Except.ok.inj h
      exact hle
    · cases h

/-- No more is eaten than is scored against. -/
theorem score_bounds {board : Board} {settings : TrialSettings} {total : Int32}
    (hr : resolveFood board settings = .ok total) (ht : t.foodTotal = total)
    (hc : t.board.foodCount + t.foodEaten = board.foodCount) :
    0 ≤ t.score ∧ t.score ≤ t.foodTotal.toInt := by
  have hle := foodCount_le_of_resolveFood hr
  rw [← ht] at hle
  unfold score
  omega

/-! ## Nothing breaks off -/

theorem eat_ok (hb : t.board.Roomy) : ∃ t', t.eat = .ok t' := by
  obtain ⟨i, hi⟩ := Board.index_ok (hb.clears t.position)
  obtain ⟨c, hc⟩ : ∃ c, t.board.cells[i]? = some c :=
    ⟨_, Array.getElem?_eq_getElem (Board.index_lt hi)⟩
  have hget := Board.get_eq_ok.mpr ⟨i, hi, hc⟩
  cases c with
  | food =>
    obtain ⟨board, hset⟩ := Board.set_ok hi .eaten
    exact ⟨_, bind_eq_ok.mpr ⟨.food, hget, bind_eq_ok.mpr ⟨board, hset, rfl⟩⟩⟩
  | empty => exact ⟨t, bind_eq_ok.mpr ⟨.empty, hget, rfl⟩⟩
  | eaten => exact ⟨t, bind_eq_ok.mpr ⟨.eaten, hget, rfl⟩⟩

theorem start_ok {board : Board} (hb : board.Roomy) (settings : TrialSettings) (total : Int32) :
    ∃ t, start board settings total = .ok t := by
  obtain ⟨position, hp⟩ := (hb.clears settings.start).wrap_ok
  obtain ⟨t, ht⟩ := eat_ok (t := ⟨board, position, settings.heading, settings.maxSteps, total, 0⟩) hb
  exact ⟨t, bind_eq_ok.mpr ⟨position, hp, ht⟩⟩

/-- Only a budget that cannot go down any further stops an ant from acting. -/
theorem act_ok (hb : t.board.Roomy) (hp : t.Placed) (hs : -2147483648 < t.stepsLeft.toInt)
    (a : Action) : ∃ t', t.act a = .ok t' := by
  have hfits : Checked.Fits (t.stepsLeft.toInt - (1 : Int32).toInt) := by
    obtain ⟨hlow, hhigh⟩ := Checked.fits_toInt t.stepsLeft
    have h1 : (1 : Int32).toInt = 1 := rfl
    constructor <;> omega
  obtain ⟨stepsLeft, hsub, -⟩ := Checked.narrow_ok hfits
  cases a with
  | move =>
    obtain ⟨position, ha⟩ := hb.step_ok hp t.heading
    obtain ⟨t', he⟩ := eat_ok (t := { t with stepsLeft, position }) hb
    exact ⟨t', bind_eq_ok.mpr ⟨stepsLeft, hsub, bind_eq_ok.mpr ⟨position, ha, he⟩⟩⟩
  | turnLeft => exact ⟨_, bind_eq_ok.mpr ⟨stepsLeft, hsub, rfl⟩⟩
  | turnRight => exact ⟨_, bind_eq_ok.mpr ⟨stepsLeft, hsub, rfl⟩⟩

theorem foodAhead_ok (hb : t.board.Roomy) (hp : t.Placed) : ∃ food, t.foodAhead = .ok food := by
  obtain ⟨position, ha⟩ := hb.step_ok hp t.heading
  obtain ⟨i, hi⟩ := Board.index_ok (hb.clears position)
  have hget := Board.get_eq_ok.mpr ⟨i, hi, Array.getElem?_eq_getElem (Board.index_lt hi)⟩
  exact ⟨_, bind_eq_ok.mpr ⟨position, ha, bind_eq_ok.mpr ⟨_, hget, rfl⟩⟩⟩

end AntTrail.Trial
