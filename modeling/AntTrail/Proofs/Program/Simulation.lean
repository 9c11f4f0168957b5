import AntTrail.Program.Run

/-!
# Ants that do alike

Two ants can be run side by side. If their states are related, and stay so whenever the
second does what corresponds to an action of the first and both look ahead
(`Ant.Simulation`), then a program on the first and the same program with its actions
exchanged on the second end alike: after one pass (`Simulation.run`) and after all
passes (`Simulation.complete`).
-/
namespace AntTrail

variable {ε α β γ δ σ τ : Type}

/-! ## Computations that end alike -/

/-- Two computations end alike if both break off for the same reason, or both succeed
and their results are related. -/
inductive Alike (R : α → β → Prop) : Except ε α → Except ε β → Prop
  | error (e : ε) : Alike R (.error e) (.error e)
  | ok {a : α} {b : β} (h : R a b) : Alike R (.ok a) (.ok b)

namespace Alike

variable {R : α → β → Prop} {S : γ → δ → Prop} {x : Except ε α} {y : Except ε β}

theorem of_eq {x y : Except ε α} (h : x = y) : Alike Eq x y := by
  subst h
  cases x with
  | error e => exact .error e
  | ok a => exact .ok rfl

theorem bind {f : α → Except ε γ} {g : β → Except ε δ} (h : Alike R x y)
    (hf : ∀ a b, R a b → Alike S (f a) (g b)) : Alike S (x >>= f) (y >>= g) := by
  cases h with
  | error e => exact .error e
  | ok h => exact hf _ _ h

/-- Computations that end alike give the same answer if it can be told from related
results. -/
theorem bind_eq {f : α → Except ε γ} {g : β → Except ε γ} (h : Alike R x y)
    (hf : ∀ a b, R a b → f a = g b) : (x >>= f) = (y >>= g) := by
  cases h with
  | error e => rfl
  | ok h => exact hf _ _ h

theorem exists_ok (h : Alike R x y) {a : α} (hx : x = .ok a) : ∃ b, y = .ok b ∧ R a b := by
  cases h with
  | error e => cases hx
  | ok h =>
    obtain rfl := Except.ok.inj hx
    exact ⟨_, rfl, h⟩

end Alike

/-! ## Programs on both -/

/-- The program with its actions exchanged. -/
def Program.mapActions (f : Action → Action) : Program → Program
  | action a => action (f a)
  | ifFood p q => ifFood (p.mapActions f) (q.mapActions f)
  | seq2 p q => seq2 (p.mapActions f) (q.mapActions f)
  | seq3 p q r => seq3 (p.mapActions f) (q.mapActions f) (r.mapActions f)

@[simp] theorem Program.mapActions_id (p : Program) : p.mapActions id = p := by
  induction p with
  | action a => rfl
  | ifFood p q ihp ihq => rw [mapActions, ihp, ihq]
  | seq2 p q ihp ihq => rw [mapActions, ihp, ihq]
  | seq3 p q r ihp ihq ihr => rw [mapActions, ihp, ihq, ihr]

namespace Ant

variable [Ant σ] [Ant τ]

/-- Ants in related states see the same ahead, and remain related after looking, and after
an action of the first and the corresponding one of the second. -/
structure Simulation (f : Action → Action) (R : σ → τ → Prop) : Prop where
  act : ∀ a s t, R s t → Alike R (Ant.act a s) (Ant.act (f a) t)
  foodAhead : ∀ s t, R s t →
    Alike (fun x y => x.1 = y.1 ∧ R x.2 y.2) (Ant.foodAhead s) (Ant.foodAhead t)

namespace Simulation

variable {f : Action → Action} {R : σ → τ → Prop} {s : σ} {t : τ}

theorem run (h : Simulation f R) (p : Program) (hst : R s t) :
    Alike R (p.run s) ((p.mapActions f).run t) := by
  induction p generalizing s t with
  | action a => exact h.act a s t hst
  | ifFood p q ihp ihq =>
    refine (h.foodAhead s t hst).bind ?_
    rintro ⟨food, s₁⟩ ⟨_, t₁⟩ ⟨rfl, h₁⟩
    cases food with
    | true => exact ihp h₁
    | false => exact ihq h₁
  | seq2 p q ihp ihq => exact (ihp hst).bind fun _ _ h₁ => ihq h₁
  | seq3 p q r ihp ihq ihr =>
    exact (ihp hst).bind fun _ _ h₁ => (ihq h₁).bind fun _ _ h₂ => ihr h₂

variable {finished : σ → Bool} {finished' : τ → Bool}

/-- The passes go on equally long on both, for the end is seen at the same time. -/
theorem runUntil (h : Simulation f R) (hfin : ∀ s t, R s t → finished s = finished' t)
    (p : Program) (passes : Nat) (hst : R s t) :
    Alike (fun x y => R x.1 y.1 ∧ x.2 = y.2) (p.runUntil finished passes s)
      ((p.mapActions f).runUntil finished' passes t) := by
  induction hn : Program.maxPasses - passes using Nat.strongRecOn generalizing s t passes with
  | ind n ih =>
    rw [Program.runUntil, Program.runUntil, hfin s t hst]
    by_cases hend : finished' t
    · rw [if_pos hend, if_pos hend]
      exact .ok ⟨hst, rfl⟩
    · rw [if_neg hend, if_neg hend]
      refine (h.run p hst).bind fun s₁ t₁ h₁ => ?_
      by_cases hroom : passes < Program.maxPasses
      · rw [if_pos hroom, if_pos hroom]
        exact ih _ (by omega) (passes + 1) h₁ rfl
      · rw [if_neg hroom, if_neg hroom]
        exact .error _

theorem complete (h : Simulation f R) (hfin : ∀ s t, R s t → finished s = finished' t)
    (p : Program) (hst : R s t) :
    Alike (fun x y => R x.1 y.1 ∧ x.2 = y.2) (p.complete finished s)
      ((p.mapActions f).complete finished' t) :=
  h.runUntil hfin p 0 hst

end Simulation
end Ant
end AntTrail
