import Mathlib.Algebra.BigOperators.Group.Finset.Basic
import Mathlib.Algebra.Group.Prod
import Mathlib.Dynamics.PeriodicPts.Defs
import AntTrail.Proofs.Board.Motion
import AntTrail.Proofs.Trial.Food

/-!
# Dead reckoning

Where an ant is follows from where it began and what it has done, without the board: the
turns add up (`turns`), and so do the moves, each in the direction of its time
(`Heading.travel`). The ant wraps its position after every move, the reckoning does so
once, at the end. They agree as `Reckoned` holds of each action (`reckoned_act`) and of one
run after another (`Reckoned.append`).
-/
namespace AntTrail

/-! ## Turning and moving on integers -/

/-- The quarter turns clockwise: those to the right less those to the left. -/
def turns (as : List Action) : Int := as.count .turnRight - as.count .turnLeft

theorem turns_append (as bs : List Action) : turns (as ++ bs) = turns as + turns bs := by
  simp only [turns, List.count_append]
  omega

namespace Heading

variable (h : Heading)

/-- The direction after `n` quarter turns clockwise. -/
def turned (n : Int) : Heading := right^[(n % 4).toNat] h

/-- The way to the cell ahead. -/
def ahead : Int × Int := (h.delta.1.toInt, h.delta.2.toInt)

/-- The way that actions lead: for each move, that to the cell ahead at the time. -/
def travel (as : List Action) : Int × Int :=
  ∑ k ∈ Finset.range as.length,
    if as[k]? = some .move then (h.turned (turns (as.take k))).ahead else 0

theorem turned_one : h.turned 1 = h.right := rfl

theorem turned_neg_one : h.turned (-1) = h.left := by cases h <;> rfl

theorem turned_turned (m n : Int) : (h.turned m).turned n = h.turned (m + n) := by
  -- four quarter turns are none
  have hperiod : Function.IsPeriodicPt right 4 h := by cases h <;> rfl
  have hmod : ((n % 4).toNat + (m % 4).toNat) % 4 = ((m + n) % 4).toNat := by omega
  unfold turned
  rw [← Function.iterate_add_apply, ← hperiod.iterate_mod_apply, hmod]

/-- The way splits where the actions do: what comes later begins with the direction that
what came before has left. -/
theorem travel_append (as bs : List Action) :
    h.travel (as ++ bs) = h.travel as + (h.turned (turns as)).travel bs := by
  unfold travel
  rw [List.length_append, Finset.sum_range_add]
  congr 1
  · refine Finset.sum_congr rfl fun k hk => ?_
    have hk := Finset.mem_range.mp hk
    rw [List.getElem?_append_left hk, List.take_append_of_le_length (Nat.le_of_lt hk)]
  · refine Finset.sum_congr rfl fun k _ => ?_
    rw [List.getElem?_append_right (Nat.le_add_right ..), Nat.add_sub_cancel_left,
      List.take_length_add_append, turns_append, turned_turned]

theorem travel_move : h.travel [.move] = h.ahead := by
  rw [travel, List.length_singleton, Finset.sum_range_one]
  rfl

theorem travel_of_ne_move {a : Action} (ha : a ≠ .move) : h.travel [a] = 0 := by
  rw [travel, List.length_singleton, Finset.sum_range_one, List.getElem?_cons_zero,
    if_neg fun e => ha (Option.some.inj e)]

end Heading

/-! ## Ways on the torus -/

namespace Shape

variable {s : Shape} {p q r : Position} {v w : Int × Int}

/-- The way leads from `p` to `q`, or to where `q` is brought over the edges. -/
structure Leads (s : Shape) (p : Position) (way : Int × Int) (q : Position) : Prop where
  x : q.x.toInt ≡ p.x.toInt + way.1 [ZMOD s.width.toInt]
  y : q.y.toInt ≡ p.y.toInt + way.2 [ZMOD s.height.toInt]

namespace Leads

theorem refl (s : Shape) (p : Position) : s.Leads p 0 p where
  x := by rw [Prod.fst_zero, Int.add_zero]
  y := by rw [Prod.snd_zero, Int.add_zero]

theorem trans (h : s.Leads p v q) (h' : s.Leads q w r) : s.Leads p (v + w) r where
  x := by
    rw [Prod.fst_add, ← Int.add_assoc]
    exact h'.x.trans (h.x.add_right _)
  y := by
    rw [Prod.snd_add, ← Int.add_assoc]
    exact h'.y.trans (h.y.add_right _)

/-- On the board itself each coordinate is the remainder of the exact sum. -/
theorem eq_emod (h : s.Leads p v q) (hq : s.Holds q) :
    q.x.toInt = (p.x.toInt + v.1) % s.width.toInt ∧
      q.y.toInt = (p.y.toInt + v.2) % s.height.toInt := by
  rw [← h.x.eq, ← h.y.eq, Int.emod_eq_of_lt hq.x_nonneg hq.x_lt,
    Int.emod_eq_of_lt hq.y_nonneg hq.y_lt]
  exact ⟨rfl, rfl⟩

end Leads

theorem leads_wrap (h : p.wrap s.width s.height = .ok q) : s.Leads p 0 q := by
  obtain ⟨hx, hy⟩ := wrap_modEq h
  constructor
  · rwa [Prod.fst_zero, Int.add_zero]
  · rwa [Prod.snd_zero, Int.add_zero]

theorem leads_step {heading : Heading} (h : p.step heading s.width s.height = .ok q) :
    s.Leads p heading.ahead q := by
  obtain ⟨hx, hy⟩ := step_modEq h
  exact ⟨hx, hy⟩

end Shape

/-! ## Reckoning along a run -/

namespace Trial

variable {t t' t'' : Trial} {a : Action} {as bs : List Action}

/-- Actions have led from `t` to `t'` as their turns, moves and number say. -/
structure Reckoned (t : Trial) (as : List Action) (t' : Trial) : Prop where
  shape : t'.board.toShape = t.board.toShape
  placed : t'.Placed
  heading : t'.heading = t.heading.turned (turns as)
  position : t.board.Leads t.position (t.heading.travel as) t'.position
  stepsLeft : t'.stepsLeft.toInt = t.stepsLeft.toInt - as.length

namespace Reckoned

theorem nil (hp : t.Placed) : t.Reckoned [] t where
  shape := rfl
  placed := hp
  heading := rfl
  position := .refl ..
  stepsLeft := (Int.sub_zero _).symm

/-- One run after another. -/
theorem append (h : t.Reckoned as t') (h' : t'.Reckoned bs t'') :
    t.Reckoned (as ++ bs) t'' where
  shape := h'.shape.trans h.shape
  placed := h'.placed
  heading := by rw [h'.heading, h.heading, Heading.turned_turned, turns_append]
  position := by
    have hp := h'.position
    rw [h.heading, h.shape] at hp
    rw [Heading.travel_append]
    exact h.position.trans hp
  stepsLeft := by
    rw [h'.stepsLeft, h.stepsLeft, List.length_append]
    omega

end Reckoned

theorem reckoned_act (hp : t.Placed) (h : t.act a = .ok t') : t.Reckoned [a] t' := by
  have hl := act_later h
  have hsteps := stepsLeft_act h
  obtain ⟨stepsLeft, -, h⟩ := bind_eq_ok.mp h
  cases a with
  | move =>
    obtain ⟨position, ha, he⟩ := bind_eq_ok.mp h
    -- the ant eats where it has come, which moves it no further
    have hq : Placed { t with stepsLeft, position } := Shape.holds_step ha
    refine ⟨hl.shape, hl.placed hp, ?_, ?_, hsteps⟩
    · rw [heading_eat hq he]
      rfl
    · rw [position_eat hq he, Heading.travel_move]
      exact Shape.leads_step ha
  | turnLeft =>
    obtain rfl := pure_eq_ok.mp h
    refine ⟨rfl, hp, t.heading.turned_neg_one.symm, ?_, hsteps⟩
    rw [Heading.travel_of_ne_move _ (by decide)]
    exact .refl ..
  | turnRight =>
    obtain rfl := pure_eq_ok.mp h
    refine ⟨rfl, hp, t.heading.turned_one.symm, ?_, hsteps⟩
    rw [Heading.travel_of_ne_move _ (by decide)]
    exact .refl ..

/-- As many actions as the budget can be counted down for are all taken, and lead where
the reckoning says. -/
theorem exists_reckoned (hb : t.board.Roomy) (hp : t.Placed)
    (hs : -2147483648 ≤ t.stepsLeft.toInt - as.length) :
    ∃ t', as.foldlM act t = .ok t' ∧ t.Reckoned as t' := by
  induction as generalizing t with
  | nil => exact ⟨t, rfl, .nil hp⟩
  | cons a as ih =>
    rw [List.length_cons] at hs
    obtain ⟨u, hu⟩ := act_ok hb hp (by omega) a
    have hr := reckoned_act hp hu
    have hsteps := stepsLeft_act hu
    obtain ⟨t', ht', hr'⟩ := ih (t := u) (hr.shape ▸ hb) hr.placed (by omega)
    exact ⟨t', List.foldlM_cons.trans (bind_eq_ok.mpr ⟨u, hu, ht'⟩), hr.append hr'⟩

/-- Looking tells whether there is food on the cell before the ant, and leaves the ant as
it is. -/
theorem foodAhead_reads (hb : t.board.Roomy) (hp : t.Placed) :
    ∃ p cell, t.board.Holds p ∧ t.board.Leads t.position t.heading.ahead p ∧
      t.board.get p = .ok cell ∧ Ant.foodAhead t = .ok (cell == .food, t) := by
  obtain ⟨p, ha⟩ := hb.step_ok hp t.heading
  obtain ⟨i, hi⟩ := Board.index_ok (hb.clears p)
  have hget := Board.get_eq_ok.mpr ⟨i, hi, Array.getElem?_eq_getElem (Board.index_lt hi)⟩
  have hfood : t.foodAhead = .ok _ := bind_eq_ok.mpr ⟨p, ha, bind_eq_ok.mpr ⟨_, hget, rfl⟩⟩
  exact ⟨p, _, Shape.holds_step ha, Shape.leads_step ha, hget, bind_eq_ok.mpr ⟨_, hfood, rfl⟩⟩

/-- Dead reckoning. On a board with room for wrapping, a trial begins whatever its settings
say, and takes every run of actions for which the budget can be counted down. The ant then
faces as far from its first direction as its turns come to, and stands where its exact way
leads from the start that was set, brought onto the board once. Looking ahead tells
whether there is food on the next cell and changes nothing. -/
theorem dead_reckoning {board : Board} (hb : board.Roomy) (settings : TrialSettings)
    (total : Int32) :
    ∃ t₀, start board settings total = .ok t₀ ∧
      ∀ as : List Action, -2147483648 ≤ settings.maxSteps.toInt - as.length →
        ∃ t, as.foldlM act t₀ = .ok t ∧
          t.heading = settings.heading.turned (turns as) ∧
          t.position.x.toInt =
            (settings.start.x.toInt + (settings.heading.travel as).1) % board.width.toInt ∧
          t.position.y.toInt =
            (settings.start.y.toInt + (settings.heading.travel as).2) % board.height.toInt ∧
          board.Holds t.position ∧
          t.stepsLeft.toInt = settings.maxSteps.toInt - as.length ∧
          ∃ p cell,
            p.x.toInt = (t.position.x.toInt + t.heading.ahead.1) % board.width.toInt ∧
            p.y.toInt = (t.position.y.toInt + t.heading.ahead.2) % board.height.toInt ∧
            t.board.get p = .ok cell ∧ Ant.foodAhead t = .ok (cell == .food, t) := by
  obtain ⟨t₀, hstart⟩ := start_ok hb settings total
  obtain ⟨hwrap, hplaced, hshape, hsteps, -, -⟩ := start_spec hstart
  have hheading : t₀.heading = settings.heading := by
    obtain ⟨position, -, hq, he⟩ := start_cases hstart
    have hp : Placed ⟨board, position, settings.heading, settings.maxSteps, total, 0⟩ := hq
    exact heading_eat hp he
  refine ⟨t₀, hstart, fun as hs => ?_⟩
  obtain ⟨t, hrun, hr⟩ := exists_reckoned (hshape ▸ hb) hplaced (hsteps ▸ hs)
  have hboard : t.board.toShape = board.toShape := hr.shape.trans hshape
  have hheld : board.Holds t.position := hboard ▸ hr.placed
  -- from the start as it was set, the first wrapping is one with all others
  have hfrom : board.Leads settings.start (settings.heading.travel as) t.position := by
    have hp := hr.position
    rw [hheading, hshape] at hp
    rw [← zero_add (settings.heading.travel as)]
    exact (Shape.leads_wrap hwrap).trans hp
  obtain ⟨hx, hy⟩ := hfrom.eq_emod hheld
  obtain ⟨p, cell, hp, hnext, hget, hfood⟩ := foodAhead_reads (hboard ▸ hb) hr.placed
  obtain ⟨px, py⟩ := hnext.eq_emod hp
  rw [hboard] at px py
  exact ⟨t, hrun, by rw [hr.heading, hheading], hx, hy, hheld, by rw [hr.stepsLeft, hsteps],
    p, cell, px, py, hget, hfood⟩

/-- The reckoning needs no coordinate to be near the board, nor the budget to be: an ant from
the far corner goes round the track of three cells and counts down to the least integer. -/
theorem dead_reckoning_track :
    ∃ t₀ t, start Journey.track
        { start := ⟨-2147483648, 2147483647⟩, maxSteps := -2147483643 } 2 = .ok t₀ ∧
      [.turnLeft, .move, .turnLeft, .move, .move].foldlM act t₀ = .ok t ∧
      t.heading = .west ∧ t.position = ⟨2, 0⟩ ∧ t.stepsLeft.toInt = -2147483648 := by
  have hroomy : Journey.track.Roomy := ⟨by decide, by decide⟩
  obtain ⟨t₀, hstart, h⟩ := dead_reckoning hroomy
    { start := ⟨-2147483648, 2147483647⟩, maxSteps := -2147483643 } 2
  obtain ⟨t, hrun, hheading, hx, hy, -, hsteps, -⟩ :=
    h [.turnLeft, .move, .turnLeft, .move, .move] (by decide)
  have htravel : Heading.east.travel [.turnLeft, .move, .turnLeft, .move, .move] = (-2, -1) := by
    decide
  rw [htravel] at hx hy
  exact ⟨t₀, t, hstart, hrun, hheading, Position.eq_of_toInt hx hy, hsteps⟩

end Trial
end AntTrail
