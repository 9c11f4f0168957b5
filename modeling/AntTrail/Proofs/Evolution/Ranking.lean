import Mathlib.Data.List.Sort
import AntTrail.Evolution.Ranking

/-!
# Ranking

`Placing.before` orders placings by score and, where scores are equal, by place. The
ranking sorts by score alone; because it keeps placings of equal score in the order of
the population, it sorts by `before` all the same (`pairwise_rank`). So the first of a
ranking is the one placing that no other comes before: the lowest score, at the lowest
of its places (`leader_of_rank`), and each of the following has as many others before it
as stand in front of it (`ranked_of_rank`).
-/
namespace AntTrail

namespace Placing

theorem before_iff {a b : Placing} :
    a.before b = true ↔
      a.score.toInt < b.score.toInt ∨ a.score = b.score ∧ a.index < b.index := by
  simp [before]

/-- One of two placings comes before the other, unless they have score and place in common. -/
theorem before_of_le {a b : Placing} (hs : a.score.toInt ≤ b.score.toInt)
    (hi : a.index < b.index) : a.before b = true := by
  rw [before_iff, ← Int32.toInt_inj]
  omega

theorem before_asymm {a b : Placing} (h : a.before b = true) : b.before a = false := by
  rw [← Bool.not_eq_true, before_iff, ← Int32.toInt_inj]
  rw [before_iff, ← Int32.toInt_inj] at h
  omega

theorem before_irrefl (a : Placing) : a.before a = false := by
  rw [← Bool.not_eq_true, before_iff]
  omega

end Placing

theorem mem_placings_iff {scores : List Int32} {p : Placing} :
    p ∈ placings scores ↔ scores[p.index]? = some p.score := by
  obtain ⟨score, index⟩ := p
  simp [placings, List.mem_zipIdx_iff_getElem?]

theorem pairwise_placings (scores : List Int32) :
    (placings scores).Pairwise fun a b => a.index < b.index := by
  rw [placings, List.pairwise_map, List.pairwise_iff_getElem]
  intro i j hi hj hij
  simpa using hij

/-- Sorting by score placings that stand in the order of their places sorts them by score
and place. -/
theorem pairwise_mergeSort_score {ps : List Placing}
    (h : ps.Pairwise fun a b => a.index < b.index) :
    (ps.mergeSort fun a b => a.score.toInt ≤ b.score.toInt).Pairwise
      fun a b => a.before b = true := by
  have htrans : ∀ a b c : Placing, decide (a.score.toInt ≤ b.score.toInt) = true →
      decide (b.score.toInt ≤ c.score.toInt) = true →
      decide (a.score.toInt ≤ c.score.toInt) = true := by
    intro a b c
    simp only [decide_eq_true_eq]
    omega
  have htotal : ∀ a b : Placing, (decide (a.score.toInt ≤ b.score.toInt) ||
      decide (b.score.toInt ≤ a.score.toInt)) = true := by
    intro a b
    simp only [Bool.or_eq_true, decide_eq_true_eq]
    omega
  induction ps with
  | nil => simp
  | cons p ps ih =>
    obtain ⟨hp, hps⟩ := List.pairwise_cons.mp h
    -- `p` goes behind all that are better and before all others
    obtain ⟨front, back, hsort, hrest, hfront⟩ := List.mergeSort_cons htrans htotal p ps
    have hle := List.pairwise_mergeSort htrans htotal (p :: ps)
    rw [hsort] at hle ⊢
    obtain ⟨-, hback, -⟩ := List.pairwise_append.mp hle
    obtain ⟨ihfront, ihback, ihboth⟩ := List.pairwise_append.mp (hrest ▸ ih hps)
    have hfirst : ∀ q ∈ front, q.before p = true := by
      intro q hq
      have := hfront q hq
      simp only [Bool.not_eq_true', decide_eq_false_iff_not] at this
      exact Placing.before_iff.mpr (.inl (by omega))
    have hlater : ∀ q ∈ back, p.before q = true := by
      intro q hq
      have hs := (List.pairwise_cons.mp hback).1 q hq
      have hmem : q ∈ ps := by
        rw [← List.mem_mergeSort, hrest]
        exact List.mem_append_right front hq
      exact Placing.before_of_le (of_decide_eq_true hs) (hp q hmem)
    refine List.pairwise_append.mpr ⟨ihfront, List.pairwise_cons.mpr ⟨hlater, ihback⟩, ?_⟩
    intro a ha b hb
    rcases List.mem_cons.mp hb with rfl | hb
    · exact hfirst a ha
    · exact ihboth a ha b hb

theorem pairwise_rank (scores : List Int32) :
    (rank scores).Pairwise fun a b => a.before b = true :=
  pairwise_mergeSort_score (pairwise_placings scores)

theorem perm_rank (scores : List Int32) : (rank scores).Perm (placings scores) :=
  List.mergeSort_perm _ _

theorem mem_rank_iff {scores : List Int32} {p : Placing} :
    p ∈ rank scores ↔ scores[p.index]? = some p.score :=
  (perm_rank scores).mem_iff.trans mem_placings_iff

/-- The first of a ranking has the lowest score, and all places before its own have
higher ones. -/
theorem leader_of_rank {scores : List Int32} {leader : Placing} {others : List Placing}
    (h : rank scores = leader :: others) :
    scores[leader.index]? = some leader.score ∧
      ∀ i s, scores[i]? = some s →
        leader.score.toInt ≤ s.toInt ∧ (i < leader.index → leader.score.toInt < s.toInt) := by
  have hfirst := (List.pairwise_cons.mp (h ▸ pairwise_rank scores)).1
  refine ⟨mem_rank_iff.mp (h ▸ List.mem_cons_self), fun i s hs => ?_⟩
  have hm : (⟨s, i⟩ : Placing) ∈ leader :: others := h ▸ mem_rank_iff.mpr hs
  rcases List.mem_cons.mp hm with rfl | hm
  · exact ⟨Int.le_refl _, fun hi => absurd hi (Nat.lt_irrefl _)⟩
  · rcases Placing.before_iff.mp (hfirst _ hm) with hlt | ⟨rfl, hi⟩
    · exact ⟨Int.le_of_lt hlt, fun _ => hlt⟩
    · exact ⟨Int.le_refl _, fun hi' => absurd hi' (Nat.lt_asymm hi)⟩

/-! ## Ranks -/

/-- The placing before which exactly `i` others come, by score and place. -/
structure Ranked (scores : List Int32) (i : Nat) (r : Placing) : Prop where
  getElem?_eq : scores[r.index]? = some r.score
  countP_before : (placings scores).countP (·.before r) = i

theorem ranked_of_rank {scores : List Int32} {i : Nat} {r : Placing}
    (h : (rank scores)[i]? = some r) : Ranked scores i r := by
  obtain ⟨hi, hr⟩ := List.getElem?_eq_some_iff.mp h
  have hsplit : rank scores = (rank scores).take i ++ r :: (rank scores).drop (i + 1) := by
    rw [← hr, ← List.drop_eq_getElem_cons hi, List.take_append_drop]
  -- those in front of it are the ones that come before it
  obtain ⟨-, hback, hfront⟩ := List.pairwise_append.mp (hsplit ▸ pairwise_rank scores)
  have hafter := (List.pairwise_cons.mp hback).1
  refine ⟨mem_rank_iff.mp (List.mem_of_getElem? h), ?_⟩
  rw [← (perm_rank scores).countP_eq, hsplit, List.countP_append, List.countP_cons,
    List.countP_eq_length.mpr fun q hq => hfront q hq r List.mem_cons_self,
    List.countP_eq_zero.mpr fun q hq => by simp [Placing.before_asymm (hafter q hq)],
    r.before_irrefl, List.length_take, Nat.min_eq_left (Nat.le_of_lt hi)]
  rfl

/-! ## Sorting by insertion -/

namespace Placing

theorem notAfter_iff {a b : Placing} :
    a.notAfter b = true ↔
      a.score.toInt < b.score.toInt ∨ a.score = b.score ∧ a.index ≤ b.index := by
  rw [notAfter, Bool.not_eq_true', ← Bool.not_eq_true, before_iff, ← Int32.toInt_inj,
    ← Int32.toInt_inj]
  omega

theorem notAfter_of_before {a b : Placing} (h : a.before b = true) : a.notAfter b = true := by
  rw [before_iff] at h
  rw [notAfter_iff]
  exact h.imp id fun h => ⟨h.1, Nat.le_of_lt h.2⟩

instance : IsTrans Placing fun a b => a.notAfter b = true where
  trans a b c := by
    simp only [notAfter_iff, ← Int32.toInt_inj]
    omega

instance : Std.Total fun a b : Placing => a.notAfter b = true where
  total a b := by
    simp only [notAfter_iff, ← Int32.toInt_inj]
    omega

theorem eq_of_notAfter {a b : Placing} (h : a.notAfter b = true) (h' : b.notAfter a = true) :
    a = b := by
  rw [notAfter_iff, ← Int32.toInt_inj] at h h'
  obtain ⟨s, i⟩ := a
  obtain ⟨t, j⟩ := b
  rw [Placing.mk.injEq, ← Int32.toInt_inj]
  dsimp only at h h'
  omega

end Placing

/-- A ranking is what putting one placing after the other in its place gives. -/
theorem rank_eq_insertionSort (scores : List Int32) :
    rank scores = (placings scores).insertionSort fun a b => a.notAfter b = true := by
  have hrank := (pairwise_rank scores).imp Placing.notAfter_of_before
  have hsort := List.pairwise_insertionSort (fun a b : Placing => a.notAfter b = true)
    (placings scores)
  have hperm := (perm_rank scores).trans
    (List.perm_insertionSort (fun a b : Placing => a.notAfter b = true) (placings scores)).symm
  exact hperm.eq_of_pairwise (fun a b _ _ => Placing.eq_of_notAfter) hrank hsort

end AntTrail
