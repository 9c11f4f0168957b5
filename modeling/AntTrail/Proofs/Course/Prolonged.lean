import AntTrail.Proofs.Course.Budget
import AntTrail.Proofs.Program.Passes

/-!
# A larger budget only prolongs a run

Nothing that an ant does or sees depends on its budget, which is looked at between passes
alone. A trial with more steps to go therefore follows the same trial with fewer
(`Trial.prolongs_following`), finishes no sooner, and whatever else it does comes after all
that the other does (`Course.evaluate_prolonged`).
-/
namespace AntTrail

namespace Trial

variable {t t' u : Trial} {extra : Nat} {a : Action}

/-- The trial with another number of steps to go. -/
def withSteps (t : Trial) (n : Int32) : Trial := { t with stepsLeft := n }

/-- The same trial, but with `extra` more steps to go. -/
def Prolongs (extra : Nat) (t t' : Trial) : Prop :=
  ∃ n : Int32, n.toInt = t.stepsLeft.toInt + extra ∧ t' = t.withSteps n

theorem eat_withSteps (h : t.eat = .ok u) (n : Int32) :
    (t.withSteps n).eat = .ok (u.withSteps n) := by
  obtain ⟨c, hget, h⟩ := bind_eq_ok.mp h
  cases c with
  | food =>
    obtain ⟨board, hset, h⟩ := bind_eq_ok.mp h
    obtain rfl := pure_eq_ok.mp h
    exact bind_eq_ok.mpr ⟨.food, hget, bind_eq_ok.mpr ⟨board, hset, rfl⟩⟩
  | empty =>
    obtain rfl := pure_eq_ok.mp h
    exact bind_eq_ok.mpr ⟨.empty, hget, rfl⟩
  | eaten =>
    obtain rfl := pure_eq_ok.mp h
    exact bind_eq_ok.mpr ⟨.eaten, hget, rfl⟩

namespace Prolongs

/-- Whoever can take a step can take it with more steps to go, too. -/
theorem act (h : Prolongs extra t t') (ha : t.act a = .ok u) :
    ∃ u', t'.act a = .ok u' ∧ Prolongs extra u u' := by
  obtain ⟨n, hn, rfl⟩ := h
  obtain ⟨s, hs, ha⟩ := bind_eq_ok.mp ha
  have hless := Checked.sub_eq_ok_iff.mp hs
  have hfits : Checked.Fits (n.toInt - (1 : Int32).toInt) := by
    have h1 : (1 : Int32).toInt = 1 := rfl
    obtain ⟨hlow, -⟩ := Checked.fits_toInt s
    obtain ⟨-, hhigh⟩ := Checked.fits_toInt n
    constructor <;> omega
  obtain ⟨m, hm, hmn⟩ := Checked.narrow_ok hfits
  have hextra : m.toInt = s.toInt + extra := by omega
  cases a with
  | move =>
    obtain ⟨position, hp, he⟩ := bind_eq_ok.mp ha
    have hplaced : Placed { t with stepsLeft := s, position } := Shape.holds_step hp
    have hsteps : u.stepsLeft = s := stepsLeft_eat hplaced he
    refine ⟨u.withSteps m, ?_, m, by rw [hsteps]; exact hextra, rfl⟩
    exact bind_eq_ok.mpr ⟨m, hm, bind_eq_ok.mpr ⟨position, hp, eat_withSteps he m⟩⟩
  | turnLeft =>
    obtain rfl := pure_eq_ok.mp ha
    exact ⟨_, bind_eq_ok.mpr ⟨m, hm, rfl⟩, m, hextra, rfl⟩
  | turnRight =>
    obtain rfl := pure_eq_ok.mp ha
    exact ⟨_, bind_eq_ok.mpr ⟨m, hm, rfl⟩, m, hextra, rfl⟩

/-- It finishes no sooner. -/
theorem finished (h : Prolongs extra t t') (hfin : t'.finished) : t.finished := by
  obtain ⟨n, hn, rfl⟩ := h
  rw [finished_iff] at hfin ⊢
  rcases hfin with hsteps | hscore
  · left
    have hsteps : n.toInt ≤ 0 := hsteps
    omega
  · exact .inr hscore

end Prolongs

theorem prolongs_following (extra : Nat) : Ant.Following (Prolongs extra) where
  act := Prolongs.act
  foodAhead := by
    intro t t' food s h hf
    obtain ⟨b, hb, hf⟩ := bind_eq_ok.mp hf
    obtain ⟨rfl, rfl⟩ := Prod.mk.inj (pure_eq_ok.mp hf)
    -- what lies ahead is read without a look at the budget
    have hsame : t'.foodAhead = t.foodAhead := by
      obtain ⟨n, -, rfl⟩ := h
      rfl
    exact ⟨t', bind_eq_ok.mpr ⟨b, hsame.trans hb, rfl⟩, h⟩

/-- Two trials that differ in their budgets alone begin alike. -/
theorem start_prolongs {board : Board} {settings : TrialSettings} {small large total : Int32}
    (h : start board { settings with maxSteps := small } total = .ok t)
    (hn : large.toInt = small.toInt + extra) :
    ∃ t', start board { settings with maxSteps := large } total = .ok t' ∧ Prolongs extra t t' := by
  obtain ⟨position, hw, hp, he⟩ := start_cases h
  have hplaced : Placed ⟨board, position, settings.heading, small, total, 0⟩ := hp
  have hsteps : t.stepsLeft = small := stepsLeft_eat hplaced he
  refine ⟨t.withSteps large, ?_, large, by rw [hsteps]; exact hn, rfl⟩
  exact bind_eq_ok.mpr ⟨position, hw, eat_withSteps he large⟩

end Trial

variable {p : Program} {t t' : Trial} {n : Nat} {as : List Action}

theorem Program.Takes.later (h : p.Takes t as t') : t.Later t' := by
  induction h with
  | action h => exact Trial.act_later h
  | food h _ ih =>
    obtain ⟨food, -, h⟩ := bind_eq_ok.mp h
    obtain ⟨-, rfl⟩ := Prod.mk.inj (pure_eq_ok.mp h)
    exact ih
  | other h _ ih =>
    obtain ⟨food, -, h⟩ := bind_eq_ok.mp h
    obtain ⟨-, rfl⟩ := Prod.mk.inj (pure_eq_ok.mp h)
    exact ih
  | seq2 _ _ ihp ihq => exact ihp.trans ihq
  | seq3 _ _ _ ihp ihq ihr => exact (ihp.trans ihq).trans ihr

theorem Program.Walks.later {finished : Trial → Bool} (h : p.Walks finished t n as t') :
    t.Later t' := by
  induction h with
  | stop _ => exact .refl _
  | pass _ hp _ ih => exact hp.later.trans ih

namespace Course

/-- The food to score against has nothing to do with the budget. -/
theorem ofBoard_withSteps {board : Board} {settings : TrialSettings} {small large : Int32}
    {c c' : Course} (hc : ofBoard board { settings with maxSteps := small } = .ok c)
    (hc' : ofBoard board { settings with maxSteps := large } = .ok c') :
    c = ⟨board, { settings with maxSteps := small }, c.foodTotal⟩ ∧
      c' = ⟨board, { settings with maxSteps := large }, c.foodTotal⟩ := by
  obtain ⟨hboard, hset, htotal⟩ := ofBoard_eq_ok hc
  obtain ⟨hboard', hset', htotal'⟩ := ofBoard_eq_ok hc'
  have heq : c'.foodTotal = c.foodTotal := Except.ok.inj (htotal'.symm.trans htotal)
  rw [← hboard, ← hset]
  refine ⟨rfl, ?_⟩
  rw [hboard, ← hset', ← hboard', ← heq]

/-- More budget never hurts. Where a program can be evaluated under two budgets, its run
under the smaller one is the beginning of its run under the larger one: the actions are the
first of those of the other, the passes are as many or fewer, and after each of them, and
before the first, both trials have the same board, with the ant at the same place and under
the same heading, and the same food eaten. So no less is eaten in the end, and the
score is no worse. -/
theorem evaluate_prolonged {board : Board} {settings : TrialSettings} {small large : Int32}
    {c c' : Course} {p : Program} {o o' : Outcome} (hle : small.toInt ≤ large.toInt)
    (hc : ofBoard board { settings with maxSteps := small } = .ok c)
    (hc' : ofBoard board { settings with maxSteps := large } = .ok c')
    (ho : c.evaluate p = .ok o) (ho' : c'.evaluate p = .ok o') :
    o.passes ≤ o'.passes ∧ o.foodEaten ≤ o'.foodEaten ∧ o'.score ≤ o.score ∧
      ∃ t₀ t₀' last last' as more, c.trial = .ok t₀ ∧ c'.trial = .ok t₀' ∧
        p.Walks Trial.finished t₀ o.passes as last ∧
        p.Walks Trial.finished t₀' o'.passes (as ++ more) last' ∧
        ∀ k ≤ o.passes, ∃ bs t t', p.Passes Trial.finished t₀ k bs t ∧
          p.Passes Trial.finished t₀' k bs t' ∧ t'.board = t.board ∧
          t'.position = t.position ∧ t'.heading = t.heading ∧ t'.foodEaten = t.foodEaten := by
  obtain ⟨hcourse, hcourse'⟩ := ofBoard_withSteps hc hc'
  obtain ⟨t₀, last, ht₀, hrun, hout⟩ := evaluate_eq_ok ho
  obtain ⟨t₀', last', ht₀', hrun', hout'⟩ := evaluate_eq_ok ho'
  obtain ⟨-, as, hwalk⟩ := Program.complete_eq_ok_iff.mp hrun
  obtain ⟨-, as', hwalk'⟩ := Program.complete_eq_ok_iff.mp hrun'
  obtain ⟨extra, hextra⟩ := Int.eq_ofNat_of_zero_le (Int.sub_nonneg_of_le hle)
  -- the two trials begin alike, and the longer one follows the shorter one
  have hstart : Trial.start board { settings with maxSteps := small } c.foodTotal = .ok t₀ := by
    rw [hcourse] at ht₀
    exact ht₀
  have hstart' : Trial.start board { settings with maxSteps := large } c.foodTotal = .ok t₀' := by
    rw [hcourse'] at ht₀'
    exact ht₀'
  have hlarge : large.toInt = small.toInt + extra := by omega
  obtain ⟨_, hsame, hbegin⟩ := Trial.start_prolongs hstart hlarge
  obtain rfl := Except.ok.inj (hstart'.symm.trans hsame)
  have hfollow := Trial.prolongs_following extra
  have hpasses := Program.Passes.of_walks hwalk
  -- all passes of the shorter run are the first of the longer one
  obtain ⟨mid, hfirst, hmid⟩ := hfollow.passes Trial.Prolongs.finished hbegin hpasses
  obtain ⟨k, more, hk, rfl, hrest⟩ := hfirst.exists_rest hwalk'
  have hlater := hrest.later
  obtain ⟨n, -, rfl⟩ := hmid
  have heaten : last.foodEaten ≤ last'.foodEaten := hlater.foodEaten
  have htotal : last'.foodTotal = last.foodTotal := hlater.foodTotal
  refine ⟨by omega, ?_, ?_, t₀, t₀', last, last', as, more, ht₀, ht₀', hwalk, hwalk', ?_⟩
  · rw [hout, hout']
    exact heaten
  · rw [hout, hout']
    show last'.score ≤ last.score
    rw [Trial.score, Trial.score, htotal]
    omega
  · intro j hj
    obtain ⟨bs, -, t, -, hto, -⟩ := hpasses.exists_first hj
    obtain ⟨t', hto', m, -, rfl⟩ := hfollow.passes Trial.Prolongs.finished hbegin hto
    exact ⟨bs, t, t.withSteps m, hto, hto', rfl, rfl, rfl, rfl⟩

/-- With one step the first pass is the only one, and it goes on beyond the end; with five
the second pass finds the food that is left. -/
theorem evaluate_prolonged_patch :
    ∃ c c' t₀ t₀' bs t t', ofBoard patch { maxSteps := 1, maxFood := none } = .ok c ∧
      ofBoard patch { maxSteps := 5, maxFood := none } = .ok c' ∧
      c.evaluate (.ifFood (.action .move) (.seq2 (.action .turnLeft) (.action .move))) =
        .ok ⟨1, 1, -1, 1⟩ ∧
      c'.evaluate (.ifFood (.action .move) (.seq2 (.action .turnLeft) (.action .move))) =
        .ok ⟨0, 2, 1, 2⟩ ∧
      c.trial = .ok t₀ ∧ c'.trial = .ok t₀' ∧
      Program.Passes (.ifFood (.action .move) (.seq2 (.action .turnLeft) (.action .move)))
        Trial.finished t₀ 1 bs t ∧
      Program.Passes (.ifFood (.action .move) (.seq2 (.action .turnLeft) (.action .move)))
        Trial.finished t₀' 1 bs t' ∧
      t'.board = t.board ∧ t'.position = t.position ∧ t'.heading = t.heading ∧
      t'.foodEaten = t.foodEaten := by
  have hsmall : Course.evaluate ⟨patch, { maxSteps := 1, maxFood := none }, 2⟩
      (.ifFood (.action .move) (.seq2 (.action .turnLeft) (.action .move))) =
        .ok ⟨1, 1, -1, 1⟩ := eq_ok_of_toOption (by decide +kernel)
  have hlarge : Course.evaluate ⟨patch, { maxSteps := 5, maxFood := none }, 2⟩
      (.ifFood (.action .move) (.seq2 (.action .turnLeft) (.action .move))) =
        .ok ⟨0, 2, 1, 2⟩ := eq_ok_of_toOption (by decide +kernel)
  have hc (n : Int32) : ofBoard patch { ({ maxFood := none } : TrialSettings) with maxSteps := n } =
      .ok ⟨patch, { maxSteps := n, maxFood := none }, 2⟩ := rfl
  obtain ⟨-, -, -, t₀, t₀', -, -, -, -, ht₀, ht₀', -, -, hagree⟩ :=
    evaluate_prolonged (by decide) (hc 1) (hc 5) hsmall hlarge
  obtain ⟨bs, t, t', ht, ht', hsame⟩ := hagree 1 (Nat.le_refl 1)
  exact ⟨_, _, t₀, t₀', bs, t, t', hc 1, hc 5, hsmall, hlarge, ht₀, ht₀', ht, ht', hsame⟩

end Course
end AntTrail
