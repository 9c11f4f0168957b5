import AntTrail.Proofs.Evolution.Ranking
import AntTrail.Proofs.Evolution.Step
import AntTrail.Proofs.Evolution.Tournament
import AntTrail.Proofs.Program.Growth

/-!
# How a generation fails

Accepted settings, with as many programs as they demand, leave breeding two ways to fail,
and neither is an error of the domain: there is always somebody to select, every elite
has its place, elites and children never need more slots than there are, and no list of
kinds is empty. What remains are draws that never end and tournaments with more
candidates than a list can hold (`BreedingFault`). So a step fails when scoring a program
breaks off, in one of these two ways, or at the last generation that can be counted
(`step_error_cases`).
-/
namespace AntTrail

/-! ## Refilling -/

namespace Generator.Stocked

variable {g : Generator} (h : g.Stocked)
include h

theorem chunk_error {seed : UInt64} {n : Nat} {f : Fault} (hf : g.chunk seed n = .error f) :
    f = .endlessDraw :=
  Draw.unfailing_times h.unfailing_generate n _ f (run'_eq_error.mp hf)

theorem chunks_error {seeds : List UInt64} {count : Nat} {f : Fault}
    (hf : g.chunks seeds count = .error f) : f = .endlessDraw := by
  induction seeds generalizing count with
  | nil => cases hf
  | cons seed seeds ih =>
    rcases bind_eq_error.mp hf with hf | ⟨front, -, hf⟩
    · exact h.chunk_error hf
    · rcases bind_eq_error.mp hf with hf | ⟨rest, -, hf⟩
      · exact ih hf
      · cases hf

theorem unfailing_refill (count : Nat) : Draw.Unfailing (g.refill count) :=
  (Draw.unfailing_times Draw.unfailing_word64 _).andThen fun _ =>
    .lift fun _ hf => h.chunks_error hf

end Generator.Stocked

/-! ## Settings -/

theorem EvolutionSettings.check_eq_ok_iff {s : EvolutionSettings} :
    s.check = .ok () ↔ 0 < s.populationSize ∧ s.eliteCount ≤ s.populationSize ∧
      0 < s.tournamentSize ∧ (0.0 ≤ s.crossoverFraction ∧ s.crossoverFraction ≤ 1.0) ∧
      0 < s.numWorkers ∧ 0 < s.trial.maxSteps.toInt ∧
      1 ≤ s.growth.maxHeight ∧ s.growth.minHeight ≤ s.growth.maxHeight := by
  simp only [check, ite_throw_eq_ok, GrowthBounds.check_eq_ok_iff, Bool.not_eq_true',
    ← Bool.not_eq_true, Bool.and_eq_true, decide_eq_true_eq, Decidable.not_not, gt_iff_lt,
    Nat.not_lt, Int.not_le, Nat.pos_iff_ne_zero, ne_eq]

namespace Engine

variable {fitness : Fitness} {e : Engine}

theorem check_of_accept {settings : EvolutionSettings} {generator : Generator}
    (h : accept settings = .ok generator) : settings.check = .ok () := by
  obtain ⟨⟨⟩, hc, -⟩ := bind_eq_ok.mp h
  exact mapError_eq_ok.mp hc

theorem Ready.population_pos (he : e.Ready) : 0 < e.population.size :=
  he.size_eq ▸ (EvolutionSettings.check_eq_ok_iff.mp (check_of_accept he.accepted)).1

theorem Ready.eliteCount_le (he : e.Ready) : e.settings.eliteCount ≤ e.population.size :=
  he.size_eq ▸ (EvolutionSettings.check_eq_ok_iff.mp (check_of_accept he.accepted)).2.1

theorem Ready.stocked (he : e.Ready) : e.generator.Stocked :=
  Generator.stocked_ofKinds (ofBounds_of_accept he.accepted)

/-! ## Scores and places -/

theorem evaluate_eq_ok_iff {scores : List Int32} :
    e.evaluate fitness = .ok scores ↔ e.population.toList.mapM fitness = .ok scores :=
  mapError_eq_ok

theorem length_evaluate {scores : List Int32} (h : e.evaluate fitness = .ok scores) :
    scores.length = e.population.size := by
  rw [length_of_mapM_eq_ok (evaluate_eq_ok_iff.mp h), Array.length_toList]

/-- Scoring a population fails as scoring one of its programs does. -/
theorem evaluate_error_cases {f : Failure EvolutionError} (h : e.evaluate fitness = .error f) :
    ∃ p ∈ e.population, ∃ b, fitness p = .error b ∧ f = .error (.brokeOff b) := by
  obtain ⟨b, hb, rfl⟩ := mapError_eq_error.mp h
  obtain ⟨p, hp, hf⟩ := mapM_eq_error hb
  exact ⟨p, Array.mem_toList_iff.mp hp, b, hf, rfl⟩

theorem exists_evaluate (h : ∀ p ∈ e.population, ∃ score, fitness p = .ok score) :
    ∃ scores, e.evaluate fitness = .ok scores := by
  obtain ⟨scores, hs⟩ := mapM_isOk fun p hp => h p (Array.mem_toList_iff.mp hp)
  exact ⟨scores, evaluate_eq_ok_iff.mpr hs⟩

/-- A population that was scored holds no program whose scoring breaks off. -/
theorem exists_score {scores : List Int32} (h : e.evaluate fitness = .ok scores) {p : Program}
    (hp : p ∈ e.population) : ∃ score, fitness p = .ok score := by
  have hm := mapM_eq_ok.mp (evaluate_eq_ok_iff.mp h)
  have hmem : fitness p ∈ scores.map .ok := hm ▸ List.mem_map_of_mem (Array.mem_toList_iff.mpr hp)
  obtain ⟨score, -, hs⟩ := List.mem_map.mp hmem
  exact ⟨score, hs.symm⟩

theorem exists_member {i : Nat} (h : i < e.population.size) : ∃ p, e.member i = .ok p :=
  ⟨_, member_eq_ok_iff.mpr (Array.getElem?_eq_getElem h)⟩

theorem length_rank (scores : List Int32) : (rank scores).length = scores.length := by
  rw [(perm_rank scores).length_eq, placings, List.length_map, List.length_zipIdx]

theorem exists_rank_cons {scores : List Int32} (h : 0 < scores.length) :
    ∃ leader others, rank scores = leader :: others :=
  List.exists_cons_of_length_pos (length_rank scores ▸ h)

section
variable {scores : List Int32} (hs : scores.length = e.population.size)
include hs

theorem exists_member_of_rank {r : Placing} (h : r ∈ rank scores) :
    ∃ p, e.member r.index = .ok p := by
  obtain ⟨hlt, -⟩ := List.getElem?_eq_some_iff.mp (mem_rank_iff.mp h)
  exact exists_member (hs ▸ hlt)

theorem Ready.exists_leader (he : e.Ready) :
    ∃ leader others program, rank scores = leader :: others ∧
      e.member leader.index = .ok program := by
  obtain ⟨leader, others, hr⟩ := exists_rank_cons (hs ▸ he.population_pos)
  obtain ⟨program, hp⟩ := exists_member_of_rank hs (hr ▸ List.mem_cons_self)
  exact ⟨leader, others, program, hr, hp⟩

theorem Ready.exists_elites (he : e.Ready) :
    ∃ elites,
      ((rank scores).take e.settings.eliteCount).mapM (fun r => e.member r.index) = .ok elites ∧
      elites.length = e.settings.eliteCount := by
  obtain ⟨elites, h⟩ := mapM_isOk fun r hr =>
    exists_member_of_rank hs (List.mem_of_mem_take (i := e.settings.eliteCount) hr)
  refine ⟨elites, h, ?_⟩
  rw [length_of_mapM_eq_ok h, List.length_take, length_rank, hs, Nat.min_eq_left he.eliteCount_le]

end

/-- The score of a placing is that of the program in its place. -/
theorem score_of_member {scores : List Int32} (hscores : e.evaluate fitness = .ok scores)
    {r : Placing} (hr : r ∈ rank scores) {p : Program} (hp : e.member r.index = .ok p) :
    p ∈ e.population ∧ fitness p = .ok r.score := by
  have hget := member_eq_ok_iff.mp hp
  have hmap := congrArg (·[r.index]?) (mapM_eq_ok.mp (evaluate_eq_ok_iff.mp hscores))
  simp only [List.getElem?_map, Array.getElem?_toList, hget, mem_rank_iff.mp hr,
    Option.map_some] at hmap
  exact ⟨Array.mem_of_getElem? hget, Option.some.inj hmap⟩

/-! ## Breeding -/

theorem failsOnly_drawing {α : Type} {d : Draw α} {excused : Fault → Prop}
    (h : FailsOnly d excused) :
    FailsOnly (drawing d) fun f => ∃ f', excused f' ∧ f = .fault f' := by
  intro s f hr
  obtain ⟨f', hf, rfl⟩ := mapError_eq_error.mp hr
  exact ⟨f', h s f' hf, rfl⟩

/-- The ways in which breeding can fail: a draw that never ends, and, where tournaments
are held, more candidates than a list can hold. -/
inductive BreedingFault (e : Engine) : Failure EvolutionError → Prop
  | endless : BreedingFault e (.fault .endlessDraw)
  | crowded (hheld : e.settings.eliteCount < e.settings.breedTarget)
      (hsize : maxCandidates < e.settings.tournamentSize) :
      BreedingFault e (.fault .capacityOverflow)

theorem failsOnly_unfailing {α : Type} {d : Draw α} (h : Draw.Unfailing d) :
    FailsOnly (drawing d) e.BreedingFault := by
  refine (failsOnly_drawing h).weaken ?_
  rintro _ ⟨_, rfl, rfl⟩
  exact .endless

section
variable {scores : Array Int32} (hs : scores.size = e.population.size)
  (hpos : 0 < e.population.size)
include hs hpos

theorem failsOnly_parent (hheld : e.settings.eliteCount < e.settings.breedTarget) :
    FailsOnly (e.parent scores) e.BreedingFault := by
  have hwinner := ensures_drawing (ensures_tournament (hs ▸ hpos) e.settings.tournamentSize)
  refine FailsOnly.bind ?_ hwinner ?_
  · refine (failsOnly_drawing (failsOnly_tournament scores _)).weaken ?_
    rintro _ ⟨_, rfl | ⟨rfl, hsize⟩, rfl⟩
    · exact .endless
    · exact .crowded hheld hsize
  · rintro _ ⟨i, rfl, hi⟩
    -- the winner is one of the scored programs
    obtain ⟨p, hp⟩ := exists_member (hs ▸ hi)
    refine .lift fun f hf => ?_
    rw [hp] at hf
    cases hf

theorem failsOnly_pair (hheld : e.settings.eliteCount < e.settings.breedTarget) :
    FailsOnly (e.pair scores) e.BreedingFault := by
  have hparent := failsOnly_parent hs hpos hheld
  exact hparent.andThen fun p => hparent.andThen fun q =>
    failsOnly_unfailing (p.unfailing_crossover q)

theorem failsOnly_offspring (n : Nat)
    (hheld : 0 < n → e.settings.eliteCount < e.settings.breedTarget) :
    FailsOnly (e.offspring scores n) e.BreedingFault := by
  induction n using offspring.induct with
  | case1 => exact .pure
  | case2 => exact (failsOnly_pair hs hpos (hheld Nat.one_pos)).andThen fun c => .pure
  | case3 n ih =>
    have hheld := hheld (Nat.succ_pos _)
    exact (failsOnly_pair hs hpos hheld).andThen fun c =>
      (ih fun _ => hheld).andThen fun rest => .pure

end

theorem ensures_length_offspring (e : Engine) (scores : Array Int32) (n : Nat) :
    Ensures (e.offspring scores n) (·.length = n) := by
  induction n using offspring.induct with
  | case1 => exact .pure rfl
  | case2 => exact .after fun c => .pure rfl
  | case3 n ih => exact .after fun c => .bind ih fun rest hrest => .pure (by simp [hrest])

theorem Ready.failsOnly_breed (he : e.Ready) {scores : List Int32}
    (hs : scores.length = e.population.size) :
    FailsOnly (e.breed scores (rank scores)) e.BreedingFault := by
  obtain ⟨elites, hel, hlength⟩ := he.exists_elites hs
  have htarget := e.settings.breedTarget_le
  have helites := he.eliteCount_le
  rw [he.size_eq] at helites
  rw [breed, mapM_lift, hel]
  have hkept : Ensures (liftM (.ok elites : Except (Failure EvolutionError) (List Program)) :
      Breeding (List Program)) (· = elites) :=
    .lift fun _ h => (Except.ok.inj h).symm
  refine FailsOnly.bind (.lift nofun) hkept ?_
  rintro _ rfl
  refine (failsOnly_offspring (by simpa using hs) he.population_pos _ ?_).bind
    (ensures_length_offspring e _ _) fun children hchildren => ?_
  · omega
  · -- elites and children fill no more slots than there are
    dsimp only
    rw [if_neg (by omega)]
    exact (failsOnly_unfailing (he.stocked.unfailing_refill _)).andThen fun fresh => .pure

/-! ## One step -/

/-- How a step fails: scoring breaks off, breeding fails in one of its two ways, or the
next generation has no number. -/
theorem Ready.step_error_cases (he : e.Ready) {f : Failure EvolutionError}
    (h : e.step fitness = .error f) :
    e.evaluate fitness = .error f ∨
      (∃ scores, e.evaluate fitness = .ok scores) ∧
        (e.BreedingFault f ∨ f = .fault .addOverflow ∧ e.generation.toNat + 1 = UInt64.size) := by
  rcases bind_eq_error.mp h with h | ⟨scores, hscores, h⟩
  · exact .inl h
  refine .inr ⟨⟨scores, hscores⟩, ?_⟩
  have hs := length_evaluate hscores
  obtain ⟨leader, others, program, hr, hp⟩ := he.exists_leader hs
  simp only [hr, hp, ok_bind] at h
  rcases bind_eq_error.mp h with h | ⟨⟨population, source⟩, -, h⟩
  · rw [← hr] at h
    exact .inl (he.failsOnly_breed hs _ _ h)
  · dsimp only at h
    split at h
    · next hg => exact .inr ⟨(Except.error.inj h).symm, hg⟩
    · cases h

/-- Where the next generation can be counted, draws end and no tournament has to be held
with more candidates than a list can hold, only scoring can fail. -/
theorem Ready.evaluate_of_step_error (he : e.Ready) (hgen : e.generation.toNat + 1 < UInt64.size)
    (hfits : e.settings.tournamentSize ≤ maxCandidates ∨
      e.settings.breedTarget ≤ e.settings.eliteCount)
    {f : Failure EvolutionError} (h : e.step fitness = .error f) (hends : f ≠ .fault .endlessDraw) :
    e.evaluate fitness = .error f := by
  rcases he.step_error_cases h with hev | ⟨-, hb | ⟨-, hlast⟩⟩
  · exact hev
  · cases hb with
    | endless => exact absurd rfl hends
    | crowded hheld hsize => omega
  · omega

/-! ## Tournaments that cannot be held -/

section
variable {scores : Array Int32} (hpos : 0 < scores.size)
  (hsize : maxCandidates < e.settings.tournamentSize)
include hpos hsize

theorem run_pair_crowded (s : Draw.Source) :
    (e.pair scores).run s = .error (.fault .capacityOverflow) := by
  have ht : (drawing (tournament scores e.settings.tournamentSize)).run s =
      .error (.fault .capacityOverflow) :=
    mapError_eq_error.mpr ⟨_, run_tournament_crowded hpos hsize s, rfl⟩
  exact run_bind_error (run_bind_error ht)

theorem run_offspring_crowded {n : Nat} (hn : 0 < n) (s : Draw.Source) :
    (e.offspring scores n).run s = .error (.fault .capacityOverflow) := by
  have hp := run_pair_crowded hpos hsize s
  match n, hn with
  | 1, _ => exact run_bind_error hp
  | n + 2, _ => exact run_bind_error hp

end

/-- Where children are to be bred, a tournament with too many candidates ends the breeding
at the first draw. -/
theorem Ready.breed_crowded (he : e.Ready) {scores : List Int32}
    (hs : scores.length = e.population.size)
    (hheld : e.settings.eliteCount < e.settings.breedTarget)
    (hsize : maxCandidates < e.settings.tournamentSize) (s : Draw.Source) :
    (e.breed scores (rank scores)).run s = .error (.fault .capacityOverflow) := by
  obtain ⟨elites, hel, hlength⟩ := he.exists_elites hs
  rw [breed, mapM_lift, hel, run_bind_ok (run_lift_eq_ok.mpr ⟨rfl, rfl⟩)]
  refine run_bind_error (run_offspring_crowded ?_ hsize (by omega) s)
  have := he.population_pos
  simpa [hs] using this

/-- It ends the step with it, as soon as the population has been scored. -/
theorem Ready.step_crowded (he : e.Ready) {scores : List Int32}
    (hscores : e.evaluate fitness = .ok scores)
    (hheld : e.settings.eliteCount < e.settings.breedTarget)
    (hsize : maxCandidates < e.settings.tournamentSize) :
    e.step fitness = .error (.fault .capacityOverflow) := by
  have hs := length_evaluate hscores
  have hbreed := he.breed_crowded hs hheld hsize e.source
  obtain ⟨leader, others, program, hr, hp⟩ := he.exists_leader hs
  rw [hr] at hbreed
  rw [Engine.step, hscores, ok_bind]
  simp only [hr, hp, ok_bind]
  rw [hbreed]
  rfl

end Engine
end AntTrail
