import AntTrail.Evolution.Tournament
import AntTrail.Proofs.Draw

/-!
# Tournaments

Candidates are drawn below the number of scores, so all of them have one, and the best of
at least one candidate is one of them: a tournament among somebody has a winner
(`ensures_tournament`). What keeps a tournament from ending is a draw that never ends, or
more candidates than a list can hold (`failsOnly_tournament`).
-/
namespace AntTrail

theorem candidate_of_lt {scores : Array Int32} {i : Nat} (h : i < scores.size) :
    candidate scores i = .ok ⟨scores[i], i⟩ := by
  rw [candidate, Array.getElem?_eq_getElem h]

theorem Placing.better_eq_or (a b : Placing) : a.better b = a ∨ a.better b = b := by
  unfold better
  split
  · exact .inr rfl
  · exact .inl rfl

theorem foldl_better_mem (p : Placing) (ps : List Placing) :
    ps.foldl Placing.better p ∈ p :: ps := by
  induction ps generalizing p with
  | nil => exact List.mem_cons_self
  | cons q ps ih =>
    rw [List.foldl_cons]
    rcases List.mem_cons.mp (ih (p.better q)) with h | h
    · rw [h]
      rcases p.better_eq_or q with hb | hb
      · rw [hb]
        exact List.mem_cons_self
      · rw [hb]
        exact List.mem_cons_of_mem p List.mem_cons_self
    · exact List.mem_cons_of_mem p (List.mem_cons_of_mem q h)

theorem exists_bestPlacing {ps : List Placing} (h : ps ≠ []) :
    ∃ p ∈ ps, bestPlacing ps = some p := by
  cases ps with
  | nil => exact absurd rfl h
  | cons p ps => exact ⟨_, foldl_better_mem p ps, rfl⟩

/-- Candidates with scores all have their placings, one of which is the best. -/
theorem exists_placed {scores : Array Int32} {candidates : List Nat} (hne : candidates ≠ [])
    (h : ∀ i ∈ candidates, i < scores.size) :
    ∃ ps, candidates.mapM (candidate scores) = .ok ps ∧ ∃ p ∈ ps, bestPlacing ps = some p := by
  obtain ⟨ps, hps⟩ := mapM_isOk fun i hi => ⟨_, candidate_of_lt (h i hi)⟩
  have hlength := length_of_mapM_eq_ok hps
  refine ⟨ps, hps, exists_bestPlacing ?_⟩
  rintro rfl
  exact hne (List.length_eq_zero_iff.mp hlength.symm)

/-- Of candidates with scores one is the best. -/
theorem exists_bestOf {scores : Array Int32} {candidates : List Nat} (hne : candidates ≠ [])
    (h : ∀ i ∈ candidates, i < scores.size) :
    ∃ i ∈ candidates, bestOf scores candidates = .ok (some i) := by
  obtain ⟨ps, hps, p, hp, hbest⟩ := exists_placed hne h
  obtain ⟨i, hi, hc⟩ := exists_of_mapM_eq_ok hps hp
  rw [candidate_of_lt (h i hi)] at hc
  obtain rfl := Except.ok.inj hc
  refine ⟨i, hi, ?_⟩
  rw [bestOf, hps, ok_bind, hbest]
  rfl

theorem ensures_candidates (n size : Nat) :
    Ensures (Draw.times (Draw.below n) (max size 1)) fun candidates =>
      candidates ≠ [] ∧ ∀ i ∈ candidates, i < n := by
  refine Ensures.weaken
    (.and (Draw.ensures_times _ _) (Draw.ensures_times_all (Draw.ensures_below n) _))
    fun candidates h => ⟨?_, h.2⟩
  rintro rfl
  have := h.1
  rw [List.length_nil] at this
  omega

/-- Where there is somebody to draw, somebody wins. -/
theorem ensures_tournament {scores : Array Int32} (h : 0 < scores.size) (size : Nat) :
    Ensures (tournament scores size) fun winner => ∃ i, winner = some i ∧ i < scores.size := by
  unfold tournament
  rw [if_neg (Nat.pos_iff_ne_zero.mp h)]
  split
  · exact .throw_bind
  · refine .bind (ensures_candidates scores.size size) fun candidates hc =>
      .lift fun winner hw => ?_
    obtain ⟨i, hi, hbest⟩ := exists_bestOf hc.1 hc.2
    rw [hbest] at hw
    exact ⟨i, (Except.ok.inj hw).symm, hc.2 i hi⟩

/-- The two ways in which a tournament is never decided. -/
theorem failsOnly_tournament (scores : Array Int32) (size : Nat) :
    FailsOnly (tournament scores size) fun f =>
      f = .endlessDraw ∨ f = .capacityOverflow ∧ maxCandidates < size := by
  unfold tournament
  split
  · exact .pure
  · next hs =>
    have hpos : 0 < scores.size := Nat.pos_of_ne_zero hs
    split
    · next hsize => exact .throw_bind (.inr ⟨rfl, hsize⟩)
    · have hbelow := Draw.unfailing_below hpos
      refine FailsOnly.bind ?_ (ensures_candidates scores.size size) fun candidates hc =>
        .lift fun f hf => ?_
      · exact (Draw.unfailing_times hbelow _).weaken fun f hf => .inl hf
      · obtain ⟨i, -, hbest⟩ := exists_bestOf hc.1 hc.2
        rw [hbest] at hf
        cases hf

/-- Too many candidates are refused before any is drawn. -/
theorem run_tournament_crowded {scores : Array Int32} (h : 0 < scores.size) {size : Nat}
    (hsize : maxCandidates < size) (s : Draw.Source) :
    (tournament scores size).run s = .error .capacityOverflow := by
  unfold tournament
  rw [if_neg (Nat.pos_iff_ne_zero.mp h), if_pos hsize]
  exact run_bind_error rfl

end AntTrail
