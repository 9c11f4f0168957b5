import AntTrail.Proofs.Board.Motion
import AntTrail.Proofs.Course.Budget
import AntTrail.Proofs.Program.Simulation

/-!
# Evaluations on a torus laid out anew

Nothing in an evaluation tells a torus from the same torus moved or turned over. A motion
carries a trial to another (`Motion.Carries`); it still does after both ants have acted,
each in its own way (`Carries.act`), and both see the same ahead (`Carries.foodAhead`). So
programs do equally well on both boards (`Course.evaluate_carried`): the torus has no seam
(`Course.evaluate_moved`), and left and right can be exchanged throughout
(`Course.evaluate_mirrored`).
-/
namespace AntTrail

/-- The direction after an action. -/
def Heading.after (h : Heading) : Action → Heading
  | .move => h
  | .turnLeft => h.left
  | .turnRight => h.right

theorem Trial.act_of_turn {t : Trial} {a : Action} (ha : a ≠ .move) :
    t.act a = do
      let stepsLeft ← Checked.sub t.stepsLeft 1
      return { t with stepsLeft, heading := t.heading.after a } := by
  cases a with
  | move => exact absurd rfl ha
  | turnLeft => rfl
  | turnRight => rfl

namespace Motion

theorem action_move (m : Motion) : m.action .move = .move := by
  unfold action
  split <;> rfl

theorem action_eq_move (m : Motion) {a : Action} : m.action a = .move ↔ a = .move := by
  unfold action
  cases m.mirrored <;> cases a <;> decide

/-- Turning and laying out anew can be exchanged. -/
theorem heading_after (m : Motion) (h : Heading) (a : Action) :
    m.heading (h.after a) = (m.heading h).after (m.action a) := by
  unfold heading action
  cases m.mirrored <;> cases a <;> cases h <;> rfl

variable {m : Motion} {t t' : Trial}

/-- `t'` is what becomes of the trial `t` when its board is laid out anew: the ant has gone
along, and the counts are the same. -/
structure Carries (m : Motion) (t t' : Trial) : Prop where
  roomy : t.board.Roomy
  lays : m.Lays t.board t'.board
  placed : t.Placed
  placed' : t'.Placed
  sends : m.Sends t.board.toShape t.position t'.position
  heading : t'.heading = m.heading t.heading
  stepsLeft : t'.stepsLeft = t.stepsLeft
  foodTotal : t'.foodTotal = t.foodTotal
  foodEaten : t'.foodEaten = t.foodEaten

namespace Carries

theorem roomy' (h : m.Carries t t') : t'.board.Roomy := h.lays.shape ▸ h.roomy

theorem holds' (h : m.Carries t t') : t.board.Holds t'.position := h.lays.shape ▸ h.placed'

theorem score (h : m.Carries t t') : t'.score = t.score := by
  rw [Trial.score, Trial.score, h.foodTotal, h.foodEaten]

theorem finished (h : m.Carries t t') : t'.finished = t.finished := by
  rw [Trial.finished, Trial.finished, h.score, h.stepsLeft]

/-- Both ants find the same where they stand. -/
theorem here (h : m.Carries t t') : t'.board.cells[t'.here]? = t.board.cells[t.here]? := by
  rw [Trial.here, h.lays.shape]
  exact h.lays.cell t.position t'.position h.placed h.holds' h.sends

theorem eat (h : m.Carries t t') : Alike m.Carries t.eat t'.eat := by
  obtain ⟨u, hu⟩ := Trial.eat_ok h.roomy
  obtain ⟨u', hu'⟩ := Trial.eat_ok h.roomy'
  rw [hu, hu']
  refine .ok ?_
  rcases Trial.eat_cases h.placed hu with ⟨hfood, rfl⟩ | ⟨hfood, b, hshape, hcells, rfl⟩
  · rcases Trial.eat_cases h.placed' hu' with ⟨-, rfl⟩ | ⟨hfood', -⟩
    · exact h
    · exact absurd (h.here.symm.trans hfood') hfood
  · rcases Trial.eat_cases h.placed' hu' with ⟨hfood', -⟩ | ⟨-, b', hshape', hcells', rfl⟩
    · exact absurd (h.here.trans hfood) hfood'
    · rw [Trial.here, h.lays.shape] at hcells'
      exact {
        roomy := hshape ▸ h.roomy
        lays := h.lays.write h.placed h.holds' h.sends hshape hshape' hcells hcells'
        placed := (Trial.eat_later h.placed hu).placed h.placed
        placed' := (Trial.eat_later h.placed' hu').placed h.placed'
        sends := hshape ▸ h.sends
        heading := h.heading
        stepsLeft := h.stepsLeft
        foodTotal := h.foodTotal
        foodEaten := congrArg (· + 1) h.foodEaten }

/-- The positions before the ants are carried along too. -/
theorem ahead (h : m.Carries t t') :
    ∃ p p', t.ahead = .ok p ∧ t'.ahead = .ok p' ∧ t.board.Holds p ∧ t.board.Holds p' ∧
      m.Sends t.board.toShape p p' := by
  obtain ⟨p, hp⟩ := h.roomy.step_ok h.placed t.heading
  obtain ⟨p', hp'⟩ := h.roomy.step_ok h.holds' (m.heading t.heading)
  refine ⟨p, p', hp, ?_, Shape.holds_step hp, Shape.holds_step hp', h.sends.step hp hp'⟩
  rw [Trial.ahead, h.heading, h.lays.shape]
  exact hp'

theorem foodAhead (h : m.Carries t t') : t'.foodAhead = t.foodAhead := by
  obtain ⟨p, p', hp, hp', hheld, hheld', hs⟩ := h.ahead
  rw [Trial.foodAhead, Trial.foodAhead, hp, hp', ok_bind, ok_bind,
    h.lays.get h.roomy hheld hheld' hs]

/-- Ants remain carried along when each acts in its own way. -/
theorem act (h : m.Carries t t') (a : Action) :
    Alike m.Carries (t.act a) (t'.act (m.action a)) := by
  have hsteps : Alike Eq (Checked.sub t.stepsLeft 1) (Checked.sub t'.stepsLeft 1) :=
    .of_eq (by rw [h.stepsLeft])
  by_cases ha : a = .move
  · rw [ha, m.action_move]
    refine hsteps.bind ?_
    rintro stepsLeft _ rfl
    obtain ⟨p, p', hp, hp', hheld, hheld', hs⟩ := h.ahead
    show Alike m.Carries (t.ahead >>= fun position => Trial.eat { t with stepsLeft, position })
      (t'.ahead >>= fun position => Trial.eat { t' with stepsLeft, position })
    rw [hp, hp']
    exact eat { h with
      placed := hheld
      placed' := by
        show t'.board.toShape.Holds p'
        rw [h.lays.shape]
        exact hheld'
      sends := hs
      stepsLeft := rfl }
  · rw [Trial.act_of_turn ha, Trial.act_of_turn fun e => ha (m.action_eq_move.mp e)]
    refine hsteps.bind ?_
    rintro stepsLeft _ rfl
    refine .ok { h with
      heading := ?_
      stepsLeft := rfl }
    show t'.heading.after (m.action a) = m.heading (t.heading.after a)
    rw [h.heading, m.heading_after]

end Carries

theorem simulation (m : Motion) : Ant.Simulation m.action m.Carries where
  act := fun a _ _ h => h.act a
  foodAhead := fun t t' h => by
    show Alike _ (t.foodAhead >>= _) (t'.foodAhead >>= _)
    exact (Alike.of_eq h.foodAhead.symm).bind fun _ _ e => .ok ⟨e, h⟩

/-- Settings for the torus laid out anew: the ant starts elsewhere and faces elsewhere, and
nothing else is different. -/
structure Adapts (m : Motion) (s : Shape) (settings settings' : TrialSettings) : Prop where
  start : m.Sends s settings.start settings'.start
  heading : settings'.heading = m.heading settings.heading
  maxSteps : settings'.maxSteps = settings.maxSteps
  maxFood : settings'.maxFood = settings.maxFood

variable {b b' : Board} {settings settings' : TrialSettings}

theorem Lays.resolveFood (h : m.Lays b b') (hs : m.Adapts b.toShape settings settings') :
    Trial.resolveFood b' settings' = Trial.resolveFood b settings := by
  rw [Trial.resolveFood, Trial.resolveFood, hs.maxFood, h.foodCount_eq]

theorem Lays.start (h : m.Lays b b') (hb : b.Roomy) (hs : m.Adapts b.toShape settings settings')
    (total : Int32) :
    Alike m.Carries (Trial.start b settings total) (Trial.start b' settings' total) := by
  have hb' : b'.Roomy := h.shape ▸ hb
  obtain ⟨p, hp⟩ := (hb.clears settings.start).wrap_ok
  obtain ⟨p', hp'⟩ := (hb.clears settings'.start).wrap_ok
  have hw' : settings'.start.wrap b'.width b'.height = .ok p' := by rw [h.shape, hp']
  rw [Trial.start, Trial.start, hp, hw']
  exact Carries.eat {
    roomy := hb
    lays := h
    placed := Shape.holds_wrap hp
    placed' := Shape.holds_wrap hw'
    sends := hs.start.wrap hp hp'
    heading := hs.heading
    stepsLeft := hs.maxSteps
    foodTotal := rfl
    foodEaten := rfl }

end Motion

namespace Course

variable {m : Motion} {b b' : Board} {settings settings' : TrialSettings}

theorem evaluate_carried {c c' : Course} (hb : c.board.Roomy) (hl : m.Lays c.board c'.board)
    (hs : m.Adapts c.board.toShape c.settings c'.settings) (htotal : c'.foodTotal = c.foodTotal)
    (p : Program) : c'.evaluate (p.mapActions m.action) = c.evaluate p := by
  have hstart : Alike m.Carries c.trial c'.trial := by
    rw [trial, trial, htotal]
    exact hl.start hb hs c.foodTotal
  refine (hstart.bind_eq fun t t' ht => ?_).symm
  have hrun := m.simulation.complete (fun _ _ h => h.finished.symm) p ht
  refine hrun.bind_eq ?_
  rintro ⟨u, passes⟩ ⟨u', _⟩ ⟨hu, rfl⟩
  have hu : m.Carries u u' := hu
  dsimp only
  rw [hu.score, hu.foodEaten, hu.stepsLeft]

/-- A board laid out anew is accepted or refused as the first is, and programs do as well on
it if their actions are laid out too. -/
theorem ofBoard_laid (hb : b.Roomy) (hl : m.Lays b b')
    (hs : m.Adapts b.toShape settings settings') :
    (∀ e, ofBoard b settings = .error e ↔ ofBoard b' settings' = .error e) ∧
      ∀ c c', ofBoard b settings = .ok c → ofBoard b' settings' = .ok c' →
        ∀ p, c'.evaluate (p.mapActions m.action) = c.evaluate p := by
  have hfood := hl.resolveFood hs
  constructor
  · intro e
    rw [ofBoard_eq_error, ofBoard_eq_error, hfood]
  · intro c c' hc hc' p
    obtain ⟨rfl, rfl, ht⟩ := ofBoard_eq_ok hc
    obtain ⟨rfl, rfl, ht'⟩ := ofBoard_eq_ok hc'
    rw [hfood, ht] at ht'
    exact evaluate_carried hb hl hs (Except.ok.inj ht').symm p

end Course

/-! ## No seam -/

/-- The torus moved by columns and rows. -/
def Motion.shift (dx dy : Int) : Motion := ⟨false, dx, dy⟩

theorem Motion.sends_shift {s : Shape} {dx dy : Int} {p q : Position} :
    (shift dx dy).Sends s p q ↔ q.x.toInt ≡ p.x.toInt + dx [ZMOD s.width.toInt] ∧
      q.y.toInt ≡ p.y.toInt + dy [ZMOD s.height.toInt] := by
  have hsign : (shift dx dy).sign = 1 := rfl
  constructor
  · rintro ⟨hx, hy⟩
    rw [hsign, Int.one_mul] at hx
    exact ⟨hx, hy⟩
  · rintro ⟨hx, hy⟩
    refine ⟨?_, hy⟩
    rw [hsign, Int.one_mul]
    exact hx

/-- `b'` is `b` moved by `dx` columns and `dy` rows, over the edges where it must be. -/
structure Board.Moved (b : Board) (dx dy : Int) (b' : Board) : Prop where
  shape : b'.toShape = b.toShape
  get : ∀ p, b.Holds p → ∀ q, b.Holds q → q.x.toInt ≡ p.x.toInt + dx [ZMOD b.width.toInt] →
    q.y.toInt ≡ p.y.toInt + dy [ZMOD b.height.toInt] → b'.get q = b.get p

instance {b b' : Board} {dx dy : Int} : Decidable (b.Moved dx dy b') :=
  decidable_of_iff (b'.toShape = b.toShape ∧ ∀ p, b.Holds p → ∀ q, b.Holds q →
      q.x.toInt ≡ p.x.toInt + dx [ZMOD b.width.toInt] →
      q.y.toInt ≡ p.y.toInt + dy [ZMOD b.height.toInt] → b'.get q = b.get p)
    ⟨fun ⟨hs, hg⟩ => ⟨hs, hg⟩, fun ⟨hs, hg⟩ => ⟨hs, hg⟩⟩

theorem Board.Moved.lays {b b' : Board} {dx dy : Int} (h : b.Moved dx dy b') (hb : b.Roomy) :
    (Motion.shift dx dy).Lays b b' := by
  refine .of_get hb h.shape fun p q hp hq hs => ?_
  obtain ⟨hx, hy⟩ := Motion.sends_shift.mp hs
  exact h.get p hp q hq hx hy

/-- The torus has no seam. A board with its cells moved by any number of columns and rows,
and the start moved with them, is accepted or refused as it was, and every program has the
same outcome on it. -/
theorem Course.evaluate_moved {b b' : Board} {dx dy : Int} (hb : b.Roomy) (h : b.Moved dx dy b')
    (settings : TrialSettings) (start : Position)
    (hx : start.x.toInt ≡ settings.start.x.toInt + dx [ZMOD b.width.toInt])
    (hy : start.y.toInt ≡ settings.start.y.toInt + dy [ZMOD b.height.toInt]) :
    (∀ e, ofBoard b settings = .error e ↔ ofBoard b' { settings with start } = .error e) ∧
      ∀ c c', ofBoard b settings = .ok c → ofBoard b' { settings with start } = .ok c' →
        ∀ p, c'.evaluate p = c.evaluate p := by
  have hs : (Motion.shift dx dy).Adapts b.toShape settings { settings with start } :=
    ⟨Motion.sends_shift.mpr ⟨hx, hy⟩, rfl, rfl, rfl⟩
  obtain ⟨herror, hok⟩ := ofBoard_laid hb (h.lays hb) hs
  have hid : (Motion.shift dx dy).action = id := rfl
  refine ⟨herror, fun c c' hc hc' p => ?_⟩
  rw [← hok c c' hc hc' p, hid, p.mapActions_id]

/-- Four rows of five cells, three of them with food. -/
def Board.lawn : Board where
  width := 5
  height := 4
  width_pos := by decide
  height_pos := by decide
  area_lt := by decide
  cells := #[
    .food, .empty, .empty, .empty, .empty,
    .empty, .empty, .empty, .food, .empty,
    .empty, .empty, .empty, .empty, .empty,
    .empty, .food, .empty, .empty, .empty]
  size_eq := rfl

/-- The same moved by two columns and three rows. -/
def Board.lawnMoved : Board where
  toShape := lawn.toShape
  cells := #[
    .food, .empty, .empty, .empty, .empty,
    .empty, .empty, .empty, .empty, .empty,
    .empty, .empty, .empty, .food, .empty,
    .empty, .empty, .food, .empty, .empty]
  size_eq := rfl

/-- Forty steps for all the food on the board. -/
def TrialSettings.fortySteps : TrialSettings := { maxSteps := 40, maxFood := none }

/-- A move, another one if there is food ahead and otherwise a turn, and then two moves and
the last turn. -/
def Program.mower (turn last : Action) : Program :=
  .seq3 (.action .move) (.ifFood (.action .move) (.action turn))
    (.seq3 (.action .move) (.action .move) (.action last))

theorem Course.evaluate_lawn :
    evaluate ⟨Board.lawn, .fortySteps, 3⟩ (.mower .turnLeft .turnRight) = .ok ⟨0, 3, 0, 8⟩ := by
  decide +kernel

theorem Course.evaluate_moved_lawn :
    ∃ c, ofBoard Board.lawnMoved { TrialSettings.fortySteps with start := ⟨-3, 7⟩ } = .ok c ∧
      c.evaluate (.mower .turnLeft .turnRight) = .ok ⟨0, 3, 0, 8⟩ := by
  have hroomy : Board.lawn.Roomy := ⟨by decide, by decide⟩
  have hmoved : Board.lawn.Moved 2 3 Board.lawnMoved := by decide +kernel
  -- the column `-3` is the column `2`, and the row `7` is the row `3`
  obtain ⟨-, hok⟩ := evaluate_moved hroomy hmoved .fortySteps ⟨-3, 7⟩ (by decide) (by decide)
  exact ⟨_, rfl, (hok _ _ rfl rfl _).trans evaluate_lawn⟩

/-! ## Left and right -/

/-- The torus turned over, so that the first column comes to the last and the last to the
first. -/
def Motion.flip (s : Shape) : Motion := ⟨true, s.width.toInt - 1, 0⟩

theorem Motion.sends_flip {s : Shape} {p q : Position} :
    (flip s).Sends s p q ↔ q.x.toInt ≡ s.width.toInt - 1 - p.x.toInt [ZMOD s.width.toInt] ∧
      q.y.toInt ≡ p.y.toInt [ZMOD s.height.toInt] := by
  have hx : (flip s).sign * p.x.toInt + (flip s).dx = s.width.toInt - 1 - p.x.toInt := by
    show -1 * p.x.toInt + (s.width.toInt - 1) = _
    omega
  have hy : p.y.toInt + (flip s).dy = p.y.toInt := Int.add_zero _
  constructor
  · rintro ⟨h, h'⟩
    rw [hx] at h
    rw [hy] at h'
    exact ⟨h, h'⟩
  · rintro ⟨h, h'⟩
    exact ⟨hx ▸ h, hy.symm ▸ h'⟩

/-- `b'` is `b` seen in a mirror: each row stands from its end to its beginning. -/
structure Board.Mirrored (b b' : Board) : Prop where
  shape : b'.toShape = b.toShape
  get : ∀ p, b.Holds p → ∀ q, b.Holds q → q.x.toInt = b.width.toInt - 1 - p.x.toInt →
    q.y = p.y → b'.get q = b.get p

instance {b b' : Board} : Decidable (b.Mirrored b') :=
  decidable_of_iff (b'.toShape = b.toShape ∧ ∀ p, b.Holds p → ∀ q, b.Holds q →
      q.x.toInt = b.width.toInt - 1 - p.x.toInt → q.y = p.y → b'.get q = b.get p)
    ⟨fun ⟨hs, hg⟩ => ⟨hs, hg⟩, fun ⟨hs, hg⟩ => ⟨hs, hg⟩⟩

theorem Board.Mirrored.lays {b b' : Board} (h : b.Mirrored b') (hb : b.Roomy) :
    (Motion.flip b.toShape).Lays b b' := by
  refine .of_get hb h.shape fun p q hp hq hs => ?_
  obtain ⟨hx, hy⟩ := Motion.sends_flip.mp hs
  -- both are on the board, so there is no going over the edges
  have hp0 := hp.x_nonneg
  have hpw := hp.x_lt
  have ex := Shape.coordinate_eq hx hq.x_nonneg hq.x_lt (by omega) (by omega)
  have ey := Shape.coordinate_eq hy hq.y_nonneg hq.y_lt hp.y_nonneg hp.y_lt
  exact h.get p hp q hq ex (Int32.toInt_inj.mp ey)

/-- The program with left and right exchanged. -/
def Program.mirror (p : Program) : Program := p.mapActions Action.mirror

/-- The settings with the ant facing as in a mirror, from another column. -/
def TrialSettings.mirror (settings : TrialSettings) (x : Int32) : TrialSettings :=
  { settings with start := ⟨x, settings.start.y⟩, heading := settings.heading.mirror }

/-- Left and right are alike. A board seen in a mirror, with the ant as it is seen there, is
accepted or refused as it was, and the programs with left and right exchanged have the
outcomes on it that the programs had. -/
theorem Course.evaluate_mirrored {b b' : Board} (hb : b.Roomy) (h : b.Mirrored b')
    (settings : TrialSettings) (x : Int32)
    (hx : x.toInt ≡ b.width.toInt - 1 - settings.start.x.toInt [ZMOD b.width.toInt]) :
    (∀ e, ofBoard b settings = .error e ↔ ofBoard b' (settings.mirror x) = .error e) ∧
      ∀ c c', ofBoard b settings = .ok c → ofBoard b' (settings.mirror x) = .ok c' →
        ∀ p, c'.evaluate p.mirror = c.evaluate p := by
  have hs : (Motion.flip b.toShape).Adapts b.toShape settings (settings.mirror x) :=
    ⟨Motion.sends_flip.mpr ⟨hx, rfl⟩, rfl, rfl, rfl⟩
  exact ofBoard_laid hb (h.lays hb) hs

/-- The lawn seen in a mirror. -/
def Board.lawnMirrored : Board where
  toShape := lawn.toShape
  cells := #[
    .empty, .empty, .empty, .empty, .food,
    .empty, .food, .empty, .empty, .empty,
    .empty, .empty, .empty, .empty, .empty,
    .empty, .empty, .empty, .food, .empty]
  size_eq := rfl

theorem Course.evaluate_mirrored_lawn :
    ∃ c, ofBoard Board.lawnMirrored (TrialSettings.fortySteps.mirror (-1)) = .ok c ∧
      c.evaluate (.mower .turnRight .turnLeft) = .ok ⟨0, 3, 0, 8⟩ := by
  have hroomy : Board.lawn.Roomy := ⟨by decide, by decide⟩
  have hmirrored : Board.lawn.Mirrored Board.lawnMirrored := by decide +kernel
  obtain ⟨-, hok⟩ := evaluate_mirrored hroomy hmirrored .fortySteps (-1) (by decide)
  exact ⟨_, rfl, (hok _ _ rfl rfl (.mower .turnLeft .turnRight)).trans evaluate_lawn⟩

end AntTrail
