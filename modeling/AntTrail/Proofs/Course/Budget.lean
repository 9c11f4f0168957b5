import AntTrail.Course
import AntTrail.Proofs.Trial.Step

/-!
# Every evaluation ends within its budget

One pass of a program takes at least one step and at most `Program.maxActions`,
whatever the ant sees on its way (`Program.run_ok`). The passes of an evaluation
therefore bring the budget down to nothing unless all food is eaten before, and the
last of them goes at most one pass too far (`Course.evaluate_ok`).
-/
namespace AntTrail

/-- The largest number of actions that one pass can take. -/
def Program.maxActions : Program → Nat
  | action _ => 1
  | ifFood p q => max p.maxActions q.maxActions
  | seq2 p q => p.maxActions + q.maxActions
  | seq3 p q r => p.maxActions + q.maxActions + r.maxActions

/-- `t'` comes after `t` and has between `least` and `most` steps less. -/
structure Trial.Spends (least most : Nat) (t t' : Trial) : Prop where
  later : t.Later t'
  least_le : (least : Int) ≤ t.stepsLeft.toInt - t'.stepsLeft.toInt
  le_most : t.stepsLeft.toInt - t'.stepsLeft.toInt ≤ most

namespace Trial.Spends

variable {t t' t'' : Trial} {least most least' most' : Nat}

theorem refl (t : Trial) : t.Spends 0 0 t := ⟨.refl t, by simp, by simp⟩

/-- What two computations take adds up. -/
theorem trans (h : t.Spends least most t') (h' : t'.Spends least' most' t'') :
    t.Spends (least + least') (most + most') t'' := by
  obtain ⟨hl, h1, h2⟩ := h
  obtain ⟨hl', h1', h2'⟩ := h'
  exact ⟨hl.trans hl', by omega, by omega⟩

theorem mono (h : t.Spends least most t') (hl : least' ≤ least) (hm : most ≤ most') :
    t.Spends least' most' t' := by
  obtain ⟨h0, h1, h2⟩ := h
  exact ⟨h0, by omega, by omega⟩

end Trial.Spends

/-! ## One pass -/

/-- A trial that only the budget can stop. -/
structure Trial.Free (t : Trial) : Prop where
  roomy : t.board.Roomy
  placed : t.Placed

theorem Trial.Later.free {t t' : Trial} (h : t.Later t') (hf : t.Free) : t'.Free where
  roomy := h.shape ▸ hf.roomy
  placed := h.placed hf.placed

/-- A pass that the budget allows for does not break off. It takes a step at least,
for a program has a leaf on each of its ways. -/
theorem Program.run_ok (p : Program) {t : Trial} (hf : t.Free)
    (hs : -2147483648 + (p.maxActions : Int) ≤ t.stepsLeft.toInt) :
    ∃ t', p.run t = .ok t' ∧ t.Spends 1 p.maxActions t' := by
  induction p generalizing t with
  | action a =>
    rw [maxActions] at hs ⊢
    obtain ⟨t', ht⟩ := Trial.act_ok hf.roomy hf.placed (by omega) a
    have hd := Trial.stepsLeft_act ht
    exact ⟨t', ht, Trial.act_later ht, by omega, by omega⟩
  | ifFood p q ihp ihq =>
    rw [maxActions] at hs ⊢
    -- looking ahead takes no step and changes nothing
    obtain ⟨food, hfood⟩ := Trial.foodAhead_ok hf.roomy hf.placed
    have hrun : (ifFood p q).run t = if food then p.run t else q.run t := by
      show ((do return (← t.foodAhead, t) : Except Fault (Bool × Trial)) >>= _) = _
      rw [hfood]
      rfl
    rw [hrun]
    cases food with
    | true =>
      obtain ⟨t', ht, hspends⟩ := ihp hf (by omega)
      exact ⟨t', ht, hspends.mono (Nat.le_refl _) (Nat.le_max_left ..)⟩
    | false =>
      obtain ⟨t', ht, hspends⟩ := ihq hf (by omega)
      exact ⟨t', ht, hspends.mono (Nat.le_refl _) (Nat.le_max_right ..)⟩
  | seq2 p q ihp ihq =>
    rw [maxActions] at hs ⊢
    obtain ⟨t₁, h₁, s₁⟩ := ihp hf (by omega)
    have hle := s₁.le_most
    obtain ⟨t₂, h₂, s₂⟩ := ihq (s₁.later.free hf) (by omega)
    exact ⟨t₂, bind_eq_ok.mpr ⟨t₁, h₁, h₂⟩, (s₁.trans s₂).mono (by decide) (Nat.le_refl _)⟩
  | seq3 p q r ihp ihq ihr =>
    rw [maxActions] at hs ⊢
    obtain ⟨t₁, h₁, s₁⟩ := ihp hf (by omega)
    have hle₁ := s₁.le_most
    obtain ⟨t₂, h₂, s₂⟩ := ihq (s₁.later.free hf) (by omega)
    have hle₂ := s₂.le_most
    obtain ⟨t₃, h₃, s₃⟩ := ihr (s₂.later.free (s₁.later.free hf)) (by omega)
    exact ⟨t₃, bind_eq_ok.mpr ⟨t₁, h₁, bind_eq_ok.mpr ⟨t₂, h₂, h₃⟩⟩,
      ((s₁.trans s₂).trans s₃).mono (by decide) (Nat.le_refl _)⟩

/-! ## All passes -/

/-- How `k` passes end: the trial has finished, and only the last pass can have gone
below a spent budget. Without a budget there is none. -/
structure Program.Completes (p : Program) (t : Trial) (k : Nat) (t' : Trial) : Prop where
  spends : t.Spends k (k * p.maxActions) t'
  finished : t'.finished
  passes_le : (k : Int) ≤ max t.stepsLeft.toInt 0
  overshoot : 0 < t.stepsLeft.toInt → -(p.maxActions : Int) < t'.stepsLeft.toInt
  idle : t.stepsLeft.toInt ≤ 0 → k = 0 ∧ t' = t

namespace Program.Completes

variable {p : Program} {t t₁ t' : Trial} {k : Nat}

theorem stop (h : t.finished) : p.Completes t 0 t where
  spends := by
    rw [Nat.zero_mul]
    exact .refl t
  finished := h
  passes_le := Int.le_max_right ..
  overshoot := by omega
  idle := fun _ => ⟨rfl, rfl⟩

/-- One pass more, at a time when the budget is not spent. -/
theorem pass (hpos : 0 < t.stepsLeft.toInt) (h : t.Spends 1 p.maxActions t₁)
    (h' : p.Completes t₁ k t') : p.Completes t (k + 1) t' where
  spends := by
    rw [Nat.add_comm k 1, Nat.add_mul, Nat.one_mul]
    exact h.trans h'.spends
  finished := h'.finished
  passes_le := by
    have h1 := h.least_le
    have h2 := h'.passes_le
    omega
  overshoot := by
    intro _
    by_cases h₁ : 0 < t₁.stepsLeft.toInt
    · exact h'.overshoot h₁
    · -- this was the last pass, and it began with a step at least
      obtain ⟨-, rfl⟩ := h'.idle (by omega)
      have := h.le_most
      omega
  idle := by omega

end Program.Completes

/-- Passes repeat until the trial has finished. The measure is the budget, which
also bounds the count of the passes. -/
theorem Program.runUntil_ok (p : Program) (hp : p.maxActions ≤ 2147483648) {t : Trial}
    (hf : t.Free) (passes : Nat) (hpasses : passes + t.stepsLeft.toInt.toNat ≤ maxPasses) :
    ∃ k t', p.runUntil Trial.finished passes t = .ok (t', passes + k) ∧ p.Completes t k t' := by
  induction hn : t.stepsLeft.toInt.toNat using Nat.strongRecOn generalizing t passes with
  | ind n ih =>
    by_cases hfin : t.finished
    · refine ⟨0, t, ?_, .stop hfin⟩
      rw [runUntil, if_pos hfin]
      rfl
    · have hpos : 0 < t.stepsLeft.toInt := by
        rw [Trial.finished_iff] at hfin
        omega
      -- a budget that is not spent has room for a whole pass, however far it goes
      obtain ⟨t₁, h₁, s₁⟩ := p.run_ok hf (by omega)
      have hless := s₁.least_le
      have hroom : passes < maxPasses := by omega
      obtain ⟨k, t', hrun, hc⟩ := ih t₁.stepsLeft.toInt.toNat (by omega) (s₁.later.free hf)
        (passes + 1) (by omega) rfl
      refine ⟨k + 1, t', ?_, hc.pass hpos s₁⟩
      rw [runUntil, if_neg hfin, h₁]
      show (if passes < maxPasses then p.runUntil Trial.finished (passes + 1) t₁ else _) = _
      rw [if_pos hroom, hrun, Nat.add_right_comm, Nat.add_assoc]

namespace Course

theorem ofBoard_eq_ok {board : Board} {settings : TrialSettings} {c : Course}
    (h : ofBoard board settings = .ok c) :
    c.board = board ∧ c.settings = settings ∧
      Trial.resolveFood board settings = .ok c.foodTotal := by
  obtain ⟨total, hr, h⟩ := bind_eq_ok.mp h
  obtain rfl := pure_eq_ok.mp h
  exact ⟨rfl, rfl, hr⟩

theorem ofBoard_eq_error {board : Board} {settings : TrialSettings} {e : SettingsError} :
    ofBoard board settings = .error e ↔ Trial.resolveFood board settings = .error e := by
  rw [ofBoard, bind_eq_error]
  constructor
  · rintro (h | ⟨total, -, h⟩)
    · exact h
    · cases h
  · exact .inl

/-- An outcome is told by the trial that is left after all passes, and their number. -/
theorem evaluate_eq_ok {c : Course} {p : Program} {o : Outcome} (h : c.evaluate p = .ok o) :
    ∃ t₀ t, c.trial = .ok t₀ ∧ p.complete Trial.finished t₀ = .ok (t, o.passes) ∧
      o = ⟨t.score, t.foodEaten, t.stepsLeft, o.passes⟩ := by
  obtain ⟨t₀, ht₀, h⟩ := bind_eq_ok.mp h
  obtain ⟨⟨t, passes⟩, hrun, h⟩ := bind_eq_ok.mp h
  obtain rfl := pure_eq_ok.mp h
  exact ⟨t₀, t, ht₀, hrun, rfl⟩

/-- Every evaluation on a board whose sides leave room for wrapping ends without a
fault, if no pass can take more than `2^31` actions. It makes no more passes than
the budget has steps, each of which takes from one step to `maxActions`; it ends
with the budget spent or all food eaten, and less than one pass beyond the budget;
and what it leaves is between none and all of the food. -/
theorem evaluate_ok {board : Board} {settings : TrialSettings} {c : Course} {p : Program}
    (hc : ofBoard board settings = .ok c) (hb : board.Roomy) (hp : p.maxActions ≤ 2147483648) :
    ∃ o, c.evaluate p = .ok o ∧
      (o.passes : Int) ≤ max settings.maxSteps.toInt 0 ∧
      (o.passes : Int) ≤ settings.maxSteps.toInt - o.stepsLeft.toInt ∧
      settings.maxSteps.toInt - o.stepsLeft.toInt ≤ o.passes * p.maxActions ∧
      (o.stepsLeft.toInt ≤ 0 ∨ o.score = 0) ∧
      (0 < settings.maxSteps.toInt → -(p.maxActions : Int) < o.stepsLeft.toInt) ∧
      (settings.maxSteps.toInt ≤ 0 → o.passes = 0 ∧ o.stepsLeft = settings.maxSteps) ∧
      o.score = c.foodTotal.toInt - o.foodEaten ∧
      0 ≤ o.score ∧ o.score ≤ c.foodTotal.toInt := by
  obtain ⟨rfl, rfl, hr⟩ := ofBoard_eq_ok hc
  obtain ⟨t, ht⟩ := Trial.start_ok hb c.settings c.foodTotal
  obtain ⟨-, hplaced, hshape, hsteps, htotal, hcount⟩ := Trial.start_spec ht
  have hf : t.Free := ⟨hshape ▸ hb, hplaced⟩
  have hroom : 0 + t.stepsLeft.toInt.toNat ≤ Program.maxPasses := by
    have := t.stepsLeft.toInt_lt
    unfold Program.maxPasses
    omega
  obtain ⟨k, t', hrun, hcompletes⟩ := p.runUntil_ok hp hf 0 hroom
  rw [Nat.zero_add] at hrun
  have heval : c.evaluate p = .ok ⟨t'.score, t'.foodEaten, t'.stepsLeft, k⟩ :=
    bind_eq_ok.mpr ⟨t, ht, bind_eq_ok.mpr ⟨_, hrun, rfl⟩⟩
  obtain ⟨⟨hlater, hleast, hmost⟩, hfin, hpasses, hover, hidle⟩ := hcompletes
  have htotal' : t'.foodTotal = c.foodTotal := hlater.foodTotal.trans htotal
  obtain ⟨hlow, hhigh⟩ :=
    Trial.score_bounds hr htotal' (hlater.foodCount.trans hcount)
  rw [htotal'] at hhigh
  rw [hsteps] at hleast hmost hpasses hover hidle
  rw [Int.natCast_mul] at hmost
  have hend : t'.stepsLeft.toInt ≤ 0 ∨ t'.score = 0 := by
    rcases Trial.finished_iff.mp hfin with h | h
    · exact .inl h
    · exact .inr (Int.le_antisymm h hlow)
  have hidle' : c.settings.maxSteps.toInt ≤ 0 → k = 0 ∧ t'.stepsLeft = c.settings.maxSteps := by
    intro h
    obtain ⟨hk, rfl⟩ := hidle h
    exact ⟨hk, hsteps⟩
  have hscore : t'.score = c.foodTotal.toInt - t'.foodEaten := by
    rw [Trial.score, htotal']
  exact ⟨_, heval, hpasses, hleast, hmost, hend, hover, hidle', hscore, hlow, hhigh⟩

/-- Two rows of two cells, with food on one diagonal. -/
def patch : Board where
  width := 2
  height := 2
  width_pos := by decide
  height_pos := by decide
  area_lt := by decide
  cells := #[.food, .empty, .empty, .food]
  size_eq := rfl

theorem evaluate_ok_patch :
    ∃ c o, ofBoard patch { maxSteps := 5, maxFood := none } = .ok c ∧
      c.evaluate (.ifFood (.action .move) (.seq2 (.action .turnLeft) (.action .move))) = .ok o ∧
      (o.passes : Int) ≤ 5 ∧ -2 < o.stepsLeft.toInt ∧ 0 ≤ o.score ∧
      o.score ≤ c.foodTotal.toInt := by
  have hok : (ofBoard patch { maxSteps := 5, maxFood := none }).isOk := by rfl
  obtain ⟨c, hc⟩ := exists_of_isOk hok
  have hroomy : patch.Roomy := ⟨by decide, by decide⟩
  obtain ⟨o, ho, hpasses, -, -, -, hover, -, -, hlow, hhigh⟩ :=
    evaluate_ok (p := .ifFood (.action .move) (.seq2 (.action .turnLeft) (.action .move))) hc hroomy
      (by decide)
  exact ⟨c, o, hc, ho, hpasses, hover (by decide), hlow, hhigh⟩

end Course
end AntTrail
