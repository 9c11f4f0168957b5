import Mathlib.Data.Prod.Lex
import AntTrail.Proofs.Evolution.Ranking
import AntTrail.Proofs.Evolution.Tournament

/-!
# The winner of a comparison and the ranking

A ranking sorts by score alone and leaves it to the sort to keep equal scores in place; the
best of some candidates is found by comparing scores and then places. Both go by one total
order, that of the pairs of score and place: in it a ranking rises strictly, and the best of
some candidates is the least of them. So the best is the one that the ranking names first,
however the candidates are listed (`rank_bestOf`).
-/
namespace AntTrail

namespace Placing

/-- What placings are compared by: the score, then the place. -/
def key (p : Placing) : Int ×ₗ Nat := toLex (p.score.toInt, p.index)

theorem before_iff_key_lt {a b : Placing} : a.before b = true ↔ a.key < b.key := by
  rw [before_iff, ← Int32.toInt_inj, key, key, Prod.Lex.toLex_lt_toLex]

theorem key_better_le (a b : Placing) :
    (a.better b).key ≤ a.key ∧ (a.better b).key ≤ b.key := by
  unfold better
  split
  · next h => exact ⟨(before_iff_key_lt.mp h).le, le_rfl⟩
  · next h => exact ⟨le_rfl, not_lt.mp fun hlt => h (before_iff_key_lt.mpr hlt)⟩

end Placing

/-- Keeping the better of two, one after the other, leaves none that comes before it. -/
theorem key_foldl_better_le (p : Placing) (ps : List Placing) :
    ∀ q ∈ p :: ps, (ps.foldl Placing.better p).key ≤ q.key := by
  induction ps generalizing p with
  | nil =>
    intro q hq
    rw [List.mem_singleton.mp hq]
    exact le_rfl
  | cons r ps ih =>
    obtain ⟨hp, hr⟩ := p.key_better_le r
    have hkept := ih (p.better r) _ List.mem_cons_self
    intro q hq
    rw [List.mem_cons, List.mem_cons] at hq
    rcases hq with rfl | rfl | hq
    · exact hkept.trans hp
    · exact hkept.trans hr
    · exact ih (p.better r) q (List.mem_cons_of_mem _ hq)

theorem key_le_of_bestPlacing {ps : List Placing} {p : Placing} (h : bestPlacing ps = some p) :
    ∀ q ∈ ps, p.key ≤ q.key := by
  cases ps with
  | nil => cases h
  | cons r ps => exact Option.some.inj h ▸ key_foldl_better_le r ps

theorem candidate_eq_ok_iff {scores : List Int32} {i : Nat} {p : Placing} :
    candidate scores.toArray i = .ok p ↔ i = p.index ∧ scores[i]? = some p.score := by
  obtain ⟨score, index⟩ := p
  rw [candidate, List.getElem?_toArray]
  cases scores[i]? <;> simp [and_comm]

/-- The placings compared are those that the ranking has of the candidates. -/
theorem mem_placed_iff {scores : List Int32} {candidates : List Nat} {ps : List Placing}
    (h : candidates.mapM (candidate scores.toArray) = .ok ps) {p : Placing} :
    p ∈ ps ↔ p ∈ rank scores ∧ p.index ∈ candidates := by
  constructor
  · intro hp
    obtain ⟨i, hi, hc⟩ := exists_of_mapM_eq_ok h hp
    obtain ⟨rfl, hs⟩ := candidate_eq_ok_iff.mp hc
    exact ⟨mem_rank_iff.mpr hs, hi⟩
  · rintro ⟨hp, hi⟩
    have hc := candidate_eq_ok_iff.mpr ⟨rfl, mem_rank_iff.mp hp⟩
    have hm := List.mem_map_of_mem (f := candidate scores.toArray) hi
    rw [mapM_eq_ok.mp h, hc] at hm
    obtain ⟨q, hq, heq⟩ := List.mem_map.mp hm
    exact Except.ok.inj heq ▸ hq

/-- In a ranking the least placing of some kind is the first of that kind. -/
theorem find?_rank_eq_some {scores : List Int32} {w : Placing} {q : Placing → Bool}
    (hw : w ∈ rank scores) (hq : q w = true)
    (hleast : ∀ r ∈ rank scores, q r = true → w.key ≤ r.key) :
    (rank scores).find? q = some w := by
  obtain ⟨front, back, hsplit⟩ := List.append_of_mem hw
  obtain ⟨-, -, hfront⟩ := List.pairwise_append.mp (hsplit ▸ pairwise_rank scores)
  refine List.find?_eq_some_iff_append.mpr ⟨hq, front, back, hsplit, fun r hr => ?_⟩
  -- one in front of the least would come before it
  have hlt := Placing.before_iff_key_lt.mp (hfront r hr w List.mem_cons_self)
  have hmem : r ∈ rank scores := hsplit ▸ List.mem_append_left _ hr
  rw [Bool.not_eq_true', ← Bool.not_eq_true]
  exact fun hr => absurd (hleast r hmem hr) (not_le.mpr hlt)

/-- A ranking holds each score with its place, strictly rising by score and then by place; and
of any candidates, in any order and however often each is named, the best is the one that the
ranking names first. -/
theorem rank_bestOf (scores : List Int32) :
    ((rank scores).map fun p => (p.score, p.index)).Perm scores.zipIdx ∧
    ((rank scores).map fun p => toLex (p.score.toInt, p.index)).Pairwise (· < ·) ∧
    ∀ candidates : List Nat, candidates ≠ [] → (∀ i ∈ candidates, i < scores.length) →
      ∃ winner, (rank scores).find? (fun p => p.index ∈ candidates) = some winner ∧
        bestOf scores.toArray candidates = .ok (some winner.index) := by
  refine ⟨?_, ?_, fun candidates hne hin => ?_⟩
  · have hplaced : (placings scores).map (fun p => (p.score, p.index)) = scores.zipIdx := by
      simp [placings, Function.comp_def]
    exact hplaced ▸ (perm_rank scores).map _
  · exact List.pairwise_map.mpr ((pairwise_rank scores).imp Placing.before_iff_key_lt.mp)
  · have hplaces : ∀ i ∈ candidates, i < scores.toArray.size := hin
    obtain ⟨ps, hps, w, hw, hbest⟩ := exists_placed hne hplaces
    obtain ⟨hranked, hnamed⟩ := (mem_placed_iff hps).mp hw
    refine ⟨w, find?_rank_eq_some hranked (decide_eq_true hnamed) fun r hr hi => ?_, ?_⟩
    · exact key_le_of_bestPlacing hbest r ((mem_placed_iff hps).mpr ⟨hr, of_decide_eq_true hi⟩)
    · rw [bestOf, hps, ok_bind, hbest]
      rfl

/-- Of the equal scores at the places 1 and 3 the ranking names the earlier first, and so does
the comparison, though it meets the other before. -/
theorem rank_bestOf_tied :
    ([3, 2, 1, 3] ≠ [] ∧ ∀ i ∈ [3, 2, 1, 3], i < [5, 2, 9, 2].length) ∧
      (rank [5, 2, 9, 2]).find? (fun p => p.index ∈ [3, 2, 1, 3]) = some ⟨2, 1⟩ ∧
      bestOf [5, 2, 9, 2].toArray [3, 2, 1, 3] = .ok (some 1) := by
  have hin : [3, 2, 1, 3] ≠ [] ∧ ∀ i ∈ [3, 2, 1, 3], i < [5, 2, 9, 2].length := by decide
  obtain ⟨⟨score, index⟩, hfirst, hbest⟩ := (rank_bestOf [5, 2, 9, 2]).2.2 _ hin.1 hin.2
  have hone : bestOf [5, 2, 9, 2].toArray [3, 2, 1, 3] = .ok (some 1) := rfl
  obtain rfl : index = 1 := Option.some.inj (Except.ok.inj (hbest.symm.trans hone))
  have hscore := mem_rank_iff.mp (List.mem_of_find?_eq_some hfirst)
  obtain rfl : (2 : Int32) = score := Option.some.inj hscore
  exact ⟨hin, hfirst, hone⟩

end AntTrail
