import AntTrail.Proofs.Program.Walk

/-!
# Runs pass by pass

Where a run to completion stands before it has ended: after some passes, none of which
began when the ant had finished (`Program.Passes`). Nothing about a pass is left open, so
the passes made so far are the first of every run from the same state
(`Passes.exists_rest`). An ant that can follow each action and each look of another one
can follow its passes too, with the same actions (`Ant.Following.passes`).
-/
namespace AntTrail

variable {σ τ : Type} [Ant σ] [Ant τ]

namespace Program

/-- Whole passes, each begun before the ant has finished: how many there are, and the
actions of all. -/
inductive Passes (p : Program) (finished : σ → Bool) : σ → Nat → List Action → σ → Prop
  | none {s : σ} : Passes p finished s 0 [] s
  | pass {s s₁ s' : σ} {n : Nat} {as bs : List Action} (h : ¬finished s) (hp : p.Takes s as s₁)
      (hrest : Passes p finished s₁ n bs s') : Passes p finished s (n + 1) (as ++ bs) s'

variable {p : Program} {finished : σ → Bool} {s s₁ s' s'' : σ} {n k : Nat} {as bs : List Action}

/-- A pass is settled by the state in which it begins. -/
theorem Takes.unique (h : p.Takes s as s') (h' : p.Takes s bs s'') : as = bs ∧ s' = s'' := by
  induction h generalizing bs s'' with
  | action h =>
    cases h' with
    | action h' =>
      rw [h] at h'
      exact ⟨rfl, Except.ok.inj h'⟩
  | food h _ ih =>
    cases h' with
    | food h' hp' =>
      rw [h] at h'
      cases h'
      exact ih hp'
    | other h' =>
      rw [h] at h'
      cases h'
  | other h _ ih =>
    cases h' with
    | food h' =>
      rw [h] at h'
      cases h'
    | other h' hq' =>
      rw [h] at h'
      cases h'
      exact ih hq'
  | seq2 _ _ ihp ihq =>
    cases h' with
    | seq2 hp' hq' =>
      obtain ⟨rfl, rfl⟩ := ihp hp'
      obtain ⟨rfl, rfl⟩ := ihq hq'
      exact ⟨rfl, rfl⟩
  | seq3 _ _ _ ihp ihq ihr =>
    cases h' with
    | seq3 hp' hq' hr' =>
      obtain ⟨rfl, rfl⟩ := ihp hp'
      obtain ⟨rfl, rfl⟩ := ihq hq'
      obtain ⟨rfl, rfl⟩ := ihr hr'
      exact ⟨rfl, rfl⟩

namespace Passes

/-- A run to completion is passes up to the end. -/
theorem of_walks (h : p.Walks finished s n as s') : p.Passes finished s n as s' := by
  induction h with
  | stop _ => exact .none
  | pass h hp _ ih => exact .pass h hp ih

/-- The state in between that a number of the passes leads to. -/
theorem exists_first (h : p.Passes finished s n as s') (hk : k ≤ n) :
    ∃ bs cs u, as = bs ++ cs ∧ p.Passes finished s k bs u ∧ p.Passes finished u (n - k) cs s' := by
  induction k generalizing s n as with
  | zero => exact ⟨[], as, s, rfl, .none, h⟩
  | succ k ih =>
    cases h with
    | none => exact absurd hk (Nat.not_succ_le_zero k)
    | @pass _ s₁ _ n as₁ rest hs hp hrest =>
      obtain ⟨bs, cs, u, rfl, hfirst, hlast⟩ := ih hrest (Nat.le_of_succ_le_succ hk)
      refine ⟨as₁ ++ bs, cs, u, (List.append_assoc ..).symm, .pass hs hp hfirst, ?_⟩
      rw [Nat.add_sub_add_right]
      exact hlast

/-- Passes that have been made are the first of every run to completion. -/
theorem exists_rest {m : Nat} (h : p.Passes finished s n as s₁)
    (hw : p.Walks finished s m bs s') :
    ∃ k cs, m = n + k ∧ bs = as ++ cs ∧ p.Walks finished s₁ k cs s' := by
  induction h generalizing m bs with
  | none => exact ⟨m, bs, (Nat.zero_add m).symm, rfl, hw⟩
  | pass hs hp _ ih =>
    cases hw with
    | stop hend => exact absurd hend hs
    | pass _ hp' hw =>
      obtain ⟨rfl, rfl⟩ := hp.unique hp'
      obtain ⟨k, cs, rfl, rfl, hrest⟩ := ih hw
      exact ⟨k, cs, Nat.add_right_comm .., (List.append_assoc ..).symm, hrest⟩

end Passes
end Program

/-! ## Following -/

namespace Ant

/-- Whatever the first ant does or sees, the second can do or sees too, and they stay
related. The second may be able to do more. -/
structure Following (R : σ → τ → Prop) : Prop where
  act : ∀ {a s t s'}, R s t → Ant.act a s = .ok s' → ∃ t', Ant.act a t = .ok t' ∧ R s' t'
  foodAhead : ∀ {s t food s'}, R s t → Ant.foodAhead s = .ok (food, s') →
    ∃ t', Ant.foodAhead t = .ok (food, t') ∧ R s' t'

namespace Following

open Program

variable {R : σ → τ → Prop} {p : Program} {s s' : σ} {t : τ} {n : Nat} {as : List Action}

theorem takes (h : Following R) (hst : R s t) (hp : p.Takes s as s') :
    ∃ t', p.Takes t as t' ∧ R s' t' := by
  induction hp generalizing t with
  | action ha =>
    obtain ⟨t', ha', hr⟩ := h.act hst ha
    exact ⟨t', .action ha', hr⟩
  | food hf _ ih =>
    obtain ⟨t₁, hf', hr⟩ := h.foodAhead hst hf
    obtain ⟨t', hp', hr'⟩ := ih hr
    exact ⟨t', .food hf' hp', hr'⟩
  | other hf _ ih =>
    obtain ⟨t₁, hf', hr⟩ := h.foodAhead hst hf
    obtain ⟨t', hq', hr'⟩ := ih hr
    exact ⟨t', .other hf' hq', hr'⟩
  | seq2 _ _ ihp ihq =>
    obtain ⟨t₁, hp', h₁⟩ := ihp hst
    obtain ⟨t₂, hq', h₂⟩ := ihq h₁
    exact ⟨t₂, .seq2 hp' hq', h₂⟩
  | seq3 _ _ _ ihp ihq ihr =>
    obtain ⟨t₁, hp', h₁⟩ := ihp hst
    obtain ⟨t₂, hq', h₂⟩ := ihq h₁
    obtain ⟨t₃, hr', h₃⟩ := ihr h₂
    exact ⟨t₃, .seq3 hp' hq' hr', h₃⟩

/-- As long as the first ant goes on, so does the second, if it never finishes before. -/
theorem passes {finished : σ → Bool} {finished' : τ → Bool} (h : Following R)
    (hfin : ∀ {s t}, R s t → finished' t → finished s) (hst : R s t)
    (hp : p.Passes finished s n as s') : ∃ t', p.Passes finished' t n as t' ∧ R s' t' := by
  induction hp generalizing t with
  | none => exact ⟨t, .none, hst⟩
  | pass hs hp _ ih =>
    obtain ⟨t₁, hp', h₁⟩ := h.takes hst hp
    obtain ⟨t', hrest, hr⟩ := ih h₁
    exact ⟨t', .pass (mt (hfin hst) hs) hp' hrest, hr⟩

end Following
end Ant
end AntTrail
