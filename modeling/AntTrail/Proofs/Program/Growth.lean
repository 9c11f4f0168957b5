import AntTrail.Program.Growth
import AntTrail.Proofs.Program.Exchange

/-!
# Random programs

A node drawn with `levels` levels below it has children drawn with one level less, so a
program grows to the height that it may have and no further (`ensures_grow`). The root
is drawn from the branches alone (`ensures_generate`). No draw is from an empty list
(`unfailing_generate`).
-/
namespace AntTrail

/-- The node built has the kind that is asked for, and children as they are given. -/
theorem Ensures.build {σ ε : Type} {child : StateT σ (Except ε) Program} {post : Program → Prop}
    (h : Ensures child post) (k : Kind) :
    Ensures (k.build child) fun p => p.kind = k ∧ ∀ q ∈ p.children, post q := by
  cases k with
  | action a => exact .pure ⟨rfl, nofun⟩
  | ifFood =>
    exact .bind h fun p hp => .bind h fun q hq => .pure ⟨rfl, by simp [Program.children, hp, hq]⟩
  | seq2 =>
    exact .bind h fun p hp => .bind h fun q hq => .pure ⟨rfl, by simp [Program.children, hp, hq]⟩
  | seq3 =>
    exact .bind h fun p hp => .bind h fun q hq => .bind h fun r hr =>
      .pure ⟨rfl, by simp [Program.children, hp, hq, hr]⟩

theorem FailsOnly.build {σ ε : Type} {child : StateT σ (Except ε) Program} {excused : ε → Prop}
    (h : FailsOnly child excused) (k : Kind) : FailsOnly (k.build child) excused := by
  cases k with
  | action a => exact .pure
  | ifFood => exact h.andThen fun p => h.andThen fun q => .pure
  | seq2 => exact h.andThen fun p => h.andThen fun q => .pure
  | seq3 => exact h.andThen fun p => h.andThen fun q => h.andThen fun r => .pure

theorem GrowthBounds.check_eq_ok_iff {b : GrowthBounds} :
    b.check = .ok () ↔ 1 ≤ b.maxHeight ∧ b.minHeight ≤ b.maxHeight := by
  unfold check
  by_cases hm : b.maxHeight < 1
  · simp only [hm, if_true, bind_eq_ok, throw_ne_ok, false_and, exists_false, false_iff]
    omega
  · by_cases hc : b.minHeight > b.maxHeight
    · simp only [hm, hc, if_true, if_false, throw_ne_ok, false_iff]
      omega
    · simp only [hm, hc, if_false, pure_eq_ok, true_iff]
      omega

namespace Generator

variable {g : Generator}

/-- What is known of a generator that was accepted. -/
theorem ofKinds_cases {bounds : GrowthBounds} {kinds : List Kind}
    (h : ofKinds bounds kinds = .ok g) :
    bounds.check = .ok () ∧ kinds.filterMap Kind.action? ≠ [] ∧
      (kinds.filter fun k => !k.isLeaf) ≠ [] ∧
      g = ⟨bounds, kinds.toArray, (kinds.filterMap Kind.action?).toArray,
        (kinds.filter fun k => !k.isLeaf).toArray⟩ := by
  obtain ⟨⟨⟩, hc, h⟩ := bind_eq_ok.mp h
  dsimp only at h
  split at h
  · cases h
  · next hl =>
    split at h
    · cases h
    · next hb =>
      obtain rfl := pure_eq_ok.mp h
      exact ⟨mapError_eq_ok.mp hc, mt List.isEmpty_iff.mpr hl, mt List.isEmpty_iff.mpr hb, rfl⟩

/-- Bounds that pass their check have a generator. -/
theorem exists_ofBounds {bounds : GrowthBounds} (h : bounds.check = .ok ()) :
    ∃ g, ofBounds bounds = .ok g := by
  rw [ofBounds, ofKinds, h]
  exact ⟨_, rfl⟩

/-- A generator from which programs with a branch for a root grow. -/
structure Sound (g : Generator) : Prop where
  /-- Below a branch there is room for its children. -/
  maxHeight_pos : 0 < g.bounds.maxHeight
  isLeaf_of_mem : ∀ {k}, k ∈ g.branches → k.isLeaf = false

theorem sound_ofKinds {bounds : GrowthBounds} {kinds : List Kind}
    (h : ofKinds bounds kinds = .ok g) : g.Sound := by
  obtain ⟨hc, -, -, rfl⟩ := ofKinds_cases h
  refine ⟨(GrowthBounds.check_eq_ok_iff.mp hc).1, fun {k} hk => ?_⟩
  have hm : k ∈ kinds.filter fun k => !k.isLeaf := List.mem_toArray.mp hk
  simpa using (List.mem_filter.mp hm).2

theorem ensures_grow (g : Generator) (levels : Nat) :
    Ensures (g.grow levels) (·.height ≤ levels) := by
  induction levels with
  | zero => exact .after fun a => .pure (Nat.le_refl 0)
  | succ levels ih =>
    refine .after fun k => (ih.build k).weaken ?_
    rintro p ⟨-, hq⟩
    exact Nat.lt_succ_iff.mp ((p.height_lt_succ_iff _).mpr fun q m => Nat.lt_succ_of_le (hq q m))

/-- A random program has a branch for its root and keeps to the greatest height. -/
theorem Sound.ensures_generate (h : g.Sound) :
    Ensures g.generate (·.BranchWithin g.bounds.maxHeight) := by
  refine .bind (Draw.ensures_pick g.branches) fun k hk => ?_
  refine ((ensures_grow g (g.bounds.maxHeight - 1)).build k).weaken ?_
  rintro p ⟨rfl, hq⟩
  refine ⟨h.isLeaf_of_mem hk, Nat.lt_succ_iff.mp ((p.height_lt_succ_iff _).mpr fun q m => ?_)⟩
  have := hq q m
  have := h.maxHeight_pos
  omega

/-- A generator that has a kind for every draw. -/
structure Stocked (g : Generator) : Prop where
  leaves_pos : 0 < g.leaves.size
  branches_pos : 0 < g.branches.size
  kinds_pos : 0 < g.kinds.size

theorem stocked_ofKinds {bounds : GrowthBounds} {kinds : List Kind}
    (h : ofKinds bounds kinds = .ok g) : g.Stocked := by
  obtain ⟨-, hl, hb, rfl⟩ := ofKinds_cases h
  have hk : kinds ≠ [] := by
    rintro rfl
    exact hl rfl
  exact ⟨List.length_pos_iff.mpr hl, List.length_pos_iff.mpr hb, List.length_pos_iff.mpr hk⟩

namespace Stocked

variable (h : g.Stocked)
include h

theorem kindsAbove_pos (levels : Nat) : 0 < (g.kindsAbove levels).size := by
  unfold kindsAbove
  split
  · exact h.branches_pos
  · exact h.kinds_pos

theorem unfailing_grow (levels : Nat) : Draw.Unfailing (g.grow levels) := by
  induction levels with
  | zero => exact (Draw.unfailing_pick h.leaves_pos).andThen fun a => .pure
  | succ levels ih => exact (Draw.unfailing_pick (h.kindsAbove_pos _)).andThen fun k => ih.build k

theorem unfailing_generate : Draw.Unfailing g.generate :=
  (Draw.unfailing_pick h.branches_pos).andThen fun k => (h.unfailing_grow _).build k

end Stocked

end Generator
end AntTrail
