import AntTrail.Proofs.Draw.Rejection
import AntTrail.Proofs.Evolution.Winner

/-!
# Selection pressure

The winner of a tournament is the one of its candidates that the ranking names first
(`run_tournament`). The candidates are drawn one after the other, so of two tournaments held
from the same source the larger draws those of the smaller first and then more. Among more
candidates the first is no later, so a larger tournament never has a worse winner
(`tournament_pressure`), as long as its candidates fit into a list.
-/
namespace AntTrail

variable {scores : List Int32} {drawn drawn' : List Nat} {w w' : Placing} {s after : Draw.Source}
  {size : Nat}

/-- Among some candidates `w` is the first of the ranking. -/
structure Winner (scores : List Int32) (drawn : List Nat) (w : Placing) : Prop where
  mem_rank : w ∈ rank scores
  mem_drawn : w.index ∈ drawn
  le : ∀ r ∈ rank scores, r.index ∈ drawn → w.key ≤ r.key

namespace Winner

theorem find?_eq (h : Winner scores drawn w) :
    (rank scores).find? (fun p => p.index ∈ drawn) = some w :=
  find?_rank_eq_some h.mem_rank (decide_eq_true h.mem_drawn) fun r hr hi =>
    h.le r hr (of_decide_eq_true hi)

/-- More candidates have no later winner. -/
theorem key_le_of_subset (h : Winner scores drawn w) (h' : Winner scores drawn' w')
    (hsub : drawn ⊆ drawn') : w'.key ≤ w.key :=
  h'.le w h.mem_rank (hsub h.mem_drawn)

end Winner

theorem exists_winner (hne : drawn ≠ []) (hin : ∀ i ∈ drawn, i < scores.length) :
    ∃ w, Winner scores drawn w ∧ bestOf scores.toArray drawn = .ok (some w.index) := by
  have hplaces : ∀ i ∈ drawn, i < scores.toArray.size := hin
  obtain ⟨ps, hps, w, hw, hbest⟩ := exists_placed hne hplaces
  obtain ⟨hranked, hnamed⟩ := (mem_placed_iff hps).mp hw
  refine ⟨w, ⟨hranked, hnamed, fun r hr hi => ?_⟩, ?_⟩
  · exact key_le_of_bestPlacing hbest r ((mem_placed_iff hps).mpr ⟨hr, hi⟩)
  · rw [bestOf, hps, ok_bind, hbest]
    rfl

/-- A tournament is won by the first of the ranking among its candidates, if their draws end
and they fit into a list. -/
theorem run_tournament (hpos : 0 < scores.length) (hsize : size ≤ maxCandidates)
    (h : (Draw.times (Draw.below scores.length) (max size 1)).run s = .ok (drawn, after)) :
    (∀ i ∈ drawn, i < scores.length) ∧ ∃ w, Winner scores drawn w ∧
      (tournament scores.toArray size).run s = .ok (some w.index, after) := by
  obtain ⟨hne, hin⟩ := ensures_candidates _ _ _ _ _ h
  obtain ⟨w, hw, hbest⟩ := exists_winner hne hin
  have hsomebody : ¬scores.toArray.size = 0 := Nat.ne_of_gt hpos
  refine ⟨hin, w, hw, ?_⟩
  rw [tournament, if_neg hsomebody, if_neg (Nat.not_lt.mpr hsize)]
  exact (run_bind_ok h).trans (run_lift_eq_ok.mpr ⟨hbest, rfl⟩)

/-- Without somebody to draw nothing is drawn, whatever the size. -/
theorem run_tournament_nil (size : Nat) (s : Draw.Source) :
    (tournament #[] size).run s = .ok (none, s) := rfl

/-- Larger tournaments never have worse winners. From any source from which draws end, a
tournament draws as many candidates as it has places and at least one, each of them with a
score and each score with equally many words, and its winner is the one of them that the
ranking names first. Of two tournaments from the same source the larger one draws those of
the smaller first, and so its winner does not come later, by score and place. Where there is
nobody to draw nobody wins and the source stays; and with more candidates than a list can
hold, where there is somebody, a tournament breaks off before it draws. -/
theorem tournament_pressure {k k' : Nat}
    (hends : ∃ i after, (Draw.below scores.length).run s = .ok (i, after)) (hk : k ≤ k')
    (hsize : k' ≤ maxCandidates) :
    (∃ drawn after drawn' after' w w',
      (Draw.times (Draw.below scores.length) (max k 1)).run s = .ok (drawn, after) ∧
      (Draw.times (Draw.below scores.length) (max k' 1)).run s = .ok (drawn', after') ∧
      drawn.length = max k 1 ∧ drawn <+: drawn' ∧ (∀ i ∈ drawn', i < scores.length) ∧
      (rank scores).find? (fun p => p.index ∈ drawn) = some w ∧
      (tournament scores.toArray k).run s = .ok (some w.index, after) ∧
      (rank scores).find? (fun p => p.index ∈ drawn') = some w' ∧
      (tournament scores.toArray k').run s = .ok (some w'.index, after') ∧
      toLex (w'.score.toInt, w'.index) ≤ toLex (w.score.toInt, w.index)) ∧
    (scores.length < UInt64.size → ∀ i < scores.length,
      (Draw.words scores.length i).card = 2 ^ (63 - scores.length.log2)) ∧
    (∀ size source, (tournament #[] size).run source = .ok (none, source)) ∧
    ∀ size source, maxCandidates < size →
      (tournament scores.toArray size).run source = .error .capacityOverflow := by
  have hpos : 0 < scores.length := by
    obtain ⟨i, after, h⟩ := hends
    exact Nat.zero_lt_of_lt (Draw.ensures_below _ _ _ _ h)
  refine ⟨?_, fun hlength i hi => Draw.card_words hlength hi, run_tournament_nil,
    fun size source hcrowd => run_tournament_crowded hpos hcrowd source⟩
  obtain ⟨drawn', after', h'⟩ := Draw.exists_times hends (max k' 1)
  have hmax : max k 1 ≤ max k' 1 := by omega
  -- what the smaller tournament draws is the beginning of what the larger one does
  obtain ⟨after, h⟩ := run'_eq_ok.mp (Draw.run'_times_take (run'_eq_ok.mpr ⟨_, h'⟩) hmax)
  obtain ⟨-, w, hw, hrun⟩ := run_tournament hpos (hk.trans hsize) h
  obtain ⟨hin, w', hw', hrun'⟩ := run_tournament hpos hsize h'
  exact ⟨_, after, drawn', after', w, w', h, h', Draw.ensures_times _ _ _ _ _ h,
    List.take_prefix _ _, hin, hw.find?_eq, hrun, hw'.find?_eq, hrun',
    hw.key_le_of_subset hw' (List.take_subset _ _)⟩

/-- Two places draw the candidate 3 twice; the third draws 1, which has the same score. -/
theorem tournament_pressure_tied :
    (∃ i after, (Draw.below 4).run (.ofSeed 5) = .ok (i, after)) ∧ 3 ≤ maxCandidates ∧
      ∃ after after' score score',
        (tournament [5, 2, 9, 2].toArray 2).run (.ofSeed 5) = .ok (some 3, after) ∧
        (tournament [5, 2, 9, 2].toArray 3).run (.ofSeed 5) = .ok (some 1, after') ∧
        (rank [5, 2, 9, 2]).find? (fun p => p.index ∈ [3, 3]) = some ⟨score, 3⟩ ∧
        (rank [5, 2, 9, 2]).find? (fun p => p.index ∈ [3, 3, 1]) = some ⟨score', 1⟩ ∧
        toLex (score'.toInt, 1) ≤ toLex (score.toInt, 3) := by
  have hone : ∃ p, (Draw.below 4).run (.ofSeed 5) = .ok p := exists_of_isOk (by decide +kernel)
  have hends : ∃ i after, (Draw.below ([5, 2, 9, 2] : List Int32).length).run (.ofSeed 5) =
      .ok (i, after) := Prod.exists.mp hone
  have hsize : 3 ≤ maxCandidates := by decide
  obtain ⟨⟨drawn, after, drawn', after', ⟨score, i⟩, ⟨score', i'⟩, h, h', -, -, -, hfind, hrun,
    hfind', hrun', hle⟩, -⟩ :=
    tournament_pressure hends (by decide : 2 ≤ 3) hsize
  have hdrawn : (Draw.times (Draw.below 4) 2).run' (.ofSeed 5) = .ok [3, 3] :=
    eq_ok_of_toOption (by decide +kernel)
  have hdrawn' : (Draw.times (Draw.below 4) 3).run' (.ofSeed 5) = .ok [3, 3, 1] :=
    eq_ok_of_toOption (by decide +kernel)
  obtain rfl := Except.ok.inj ((run'_eq_ok.mpr ⟨after, h⟩).symm.trans hdrawn)
  obtain rfl := Except.ok.inj ((run'_eq_ok.mpr ⟨after', h'⟩).symm.trans hdrawn')
  have hbest : bestOf [5, 2, 9, 2].toArray [3, 3] = .ok (some 3) := rfl
  have hbest' : bestOf [5, 2, 9, 2].toArray [3, 3, 1] = .ok (some 1) := rfl
  have hwon : (tournament [5, 2, 9, 2].toArray 2).run (.ofSeed 5) = .ok (some 3, after) :=
    (run_bind_ok h).trans (run_lift_eq_ok.mpr ⟨hbest, rfl⟩)
  have hwon' : (tournament [5, 2, 9, 2].toArray 3).run (.ofSeed 5) = .ok (some 1, after') :=
    (run_bind_ok h').trans (run_lift_eq_ok.mpr ⟨hbest', rfl⟩)
  obtain rfl : i = 3 := by simpa [hwon] using hrun.symm
  obtain rfl : i' = 1 := by simpa [hwon'] using hrun'.symm
  exact ⟨hends, hsize, after, after', score, score', hwon, hwon', hfind, hfind', hle⟩

/-- Draws may end and no tournament be decided: of one candidate more than a list can hold each
can be drawn. -/
theorem tournament_overcrowded :
    (∃ drawn after, (Draw.times (Draw.below 4) (max (maxCandidates + 1) 1)).run (.ofSeed 5) =
      .ok (drawn, after)) ∧
    (tournament [5, 2, 9, 2].toArray (maxCandidates + 1)).run (.ofSeed 5) =
      .error .capacityOverflow := by
  have hone : ∃ p, (Draw.below 4).run (.ofSeed 5) = .ok p := exists_of_isOk (by decide +kernel)
  exact ⟨Draw.exists_times (Prod.exists.mp hone) _,
    run_tournament_crowded (by decide) (Nat.lt_succ_self _) _⟩

end AntTrail
