import AntTrail.Program.Run
import AntTrail.Proofs.Reading

/-!
# The actions that a run takes

What a program makes an ant do, as a list of actions: of one pass (`Program.Takes`) and
of whole passes until the ant has finished (`Program.Walks`). Both are given by rules,
and looking ahead adds nothing to the list. A run succeeds just if there are such
actions: for a pass by `Takes.of_run` and `Takes.run`, for all by `complete_eq_ok_iff`.
-/
namespace AntTrail.Program

variable {σ : Type} [Ant σ]

/-- One pass from the first state to the last, and the actions that it takes. -/
inductive Takes : Program → σ → List Action → σ → Prop
  | action {a : Action} {s s' : σ} (h : Ant.act a s = .ok s') : Takes (.action a) s [a] s'
  | food {p q : Program} {s s₁ s' : σ} {as : List Action}
      (h : Ant.foodAhead s = .ok (true, s₁)) (hp : Takes p s₁ as s') : Takes (.ifFood p q) s as s'
  | other {p q : Program} {s s₁ s' : σ} {as : List Action}
      (h : Ant.foodAhead s = .ok (false, s₁)) (hq : Takes q s₁ as s') : Takes (.ifFood p q) s as s'
  | seq2 {p q : Program} {s s₁ s' : σ} {as bs : List Action}
      (hp : Takes p s as s₁) (hq : Takes q s₁ bs s') : Takes (.seq2 p q) s (as ++ bs) s'
  | seq3 {p q r : Program} {s s₁ s₂ s' : σ} {as bs cs : List Action}
      (hp : Takes p s as s₁) (hq : Takes q s₁ bs s₂) (hr : Takes r s₂ cs s') :
      Takes (.seq3 p q r) s (as ++ bs ++ cs) s'

/-- Passes until the ant has finished: how many there are, and the actions of all. -/
inductive Walks (p : Program) (finished : σ → Bool) : σ → Nat → List Action → σ → Prop
  | stop {s : σ} (h : finished s) : Walks p finished s 0 [] s
  | pass {s s₁ s' : σ} {n : Nat} {as bs : List Action} (h : ¬finished s) (hp : p.Takes s as s₁)
      (hw : Walks p finished s₁ n bs s') : Walks p finished s (n + 1) (as ++ bs) s'

variable {p : Program} {s s' : σ}

theorem run_ifFood_eq_ok {q : Program} :
    (ifFood p q).run s = .ok s' ↔
      ∃ food s₁, Ant.foodAhead s = .ok (food, s₁) ∧ (if food then p else q).run s₁ = .ok s' := by
  rw [run, bind_eq_ok, Prod.exists]
  refine exists_congr fun food => exists_congr fun s₁ => and_congr_right fun _ => ?_
  cases food with
  | true => rfl
  | false => rfl

theorem Takes.of_run (h : p.run s = .ok s') : ∃ as, p.Takes s as s' := by
  induction p generalizing s s' with
  | action a => exact ⟨[a], .action h⟩
  | ifFood p q ihp ihq =>
    obtain ⟨food, s₁, hf, h⟩ := run_ifFood_eq_ok.mp h
    cases food with
    | true =>
      obtain ⟨as, hp⟩ := ihp h
      exact ⟨as, .food hf hp⟩
    | false =>
      obtain ⟨as, hq⟩ := ihq h
      exact ⟨as, .other hf hq⟩
  | seq2 p q ihp ihq =>
    obtain ⟨s₁, h₁, h₂⟩ := bind_eq_ok.mp h
    obtain ⟨as, hp⟩ := ihp h₁
    obtain ⟨bs, hq⟩ := ihq h₂
    exact ⟨as ++ bs, .seq2 hp hq⟩
  | seq3 p q r ihp ihq ihr =>
    obtain ⟨s₁, h₁, h⟩ := bind_eq_ok.mp h
    obtain ⟨s₂, h₂, h₃⟩ := bind_eq_ok.mp h
    obtain ⟨as, hp⟩ := ihp h₁
    obtain ⟨bs, hq⟩ := ihq h₂
    obtain ⟨cs, hr⟩ := ihr h₃
    exact ⟨as ++ bs ++ cs, .seq3 hp hq hr⟩

theorem Takes.run {as : List Action} (h : p.Takes s as s') : p.run s = .ok s' := by
  induction h with
  | action h => exact h
  | food h _ ih => exact run_ifFood_eq_ok.mpr ⟨true, _, h, ih⟩
  | other h _ ih => exact run_ifFood_eq_ok.mpr ⟨false, _, h, ih⟩
  | seq2 _ _ ihp ihq => exact bind_eq_ok.mpr ⟨_, ihp, ihq⟩
  | seq3 _ _ _ ihp ihq ihr => exact bind_eq_ok.mpr ⟨_, ihp, bind_eq_ok.mpr ⟨_, ihq, ihr⟩⟩

variable {finished : σ → Bool} {n passes : Nat}

theorem Walks.of_runUntil (hp : passes ≤ maxPasses)
    (h : p.runUntil finished passes s = .ok (s', n)) :
    ∃ k as, n = passes + k ∧ passes + k ≤ maxPasses ∧ p.Walks finished s k as s' := by
  induction hm : maxPasses - passes using Nat.strongRecOn generalizing s passes with
  | ind m ih =>
    rw [runUntil] at h
    by_cases hend : finished s
    · rw [if_pos hend] at h
      obtain ⟨rfl, rfl⟩ := Prod.mk.inj (Except.ok.inj h)
      exact ⟨0, [], rfl, hp, .stop hend⟩
    · rw [if_neg hend] at h
      obtain ⟨s₁, h₁, h⟩ := bind_eq_ok.mp h
      by_cases hroom : passes < maxPasses
      · rw [if_pos hroom] at h
        obtain ⟨k, bs, hn, hk, hw⟩ := ih _ (by omega) hroom h rfl
        obtain ⟨as, ht⟩ := Takes.of_run h₁
        exact ⟨k + 1, as ++ bs, by omega, by omega, .pass hend ht hw⟩
      · rw [if_neg hroom] at h
        cases h

theorem Walks.runUntil {as : List Action} (h : p.Walks finished s n as s')
    (hn : passes + n ≤ maxPasses) : p.runUntil finished passes s = .ok (s', passes + n) := by
  induction h generalizing passes with
  | stop h => rw [Program.runUntil, if_pos h, Nat.add_zero]
  | @pass s s₁ s' n as bs h hp _ ih =>
    have hroom : passes < maxPasses := by omega
    rw [Program.runUntil, if_neg h, hp.run, ok_bind, if_pos hroom, ih (by omega), Nat.add_right_comm,
      Nat.add_assoc]

/-- All passes succeed just if there are actions that they take, and the passes can be
counted. -/
theorem complete_eq_ok_iff :
    p.complete finished s = .ok (s', n) ↔ n ≤ maxPasses ∧ ∃ as, p.Walks finished s n as s' := by
  constructor
  · intro h
    obtain ⟨k, as, rfl, hk, hw⟩ := Walks.of_runUntil (Nat.zero_le _) h
    rw [Nat.zero_add] at hk ⊢
    exact ⟨hk, as, hw⟩
  · rintro ⟨hn, as, hw⟩
    rw [complete, hw.runUntil (by omega), Nat.zero_add]

end AntTrail.Program
