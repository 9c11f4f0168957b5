import AntTrail.Proofs.Evolution.Generations
import AntTrail.Proofs.Evolution.Inheritance

/-!
# Runs after a perfect program

A run that is to stop at a perfect program looks for one among the programs of the
generation that it has just scored, and not at its record. So a record that is perfect
stays as it is (`best_run_of_perfect`), but the next run scores one more generation before
it can stop, if there is one left and its step succeeds (`engine_run_eq_iff`). Elites hold
on to the perfect program, so that this generation is the last (`Kept.run_of_perfect`).
Without elites it may be gone, and the run goes on to its limit.
-/
namespace AntTrail

/-! ## Scores -/

/-- No program is given a score below that of a perfect one. -/
def Fitness.Nonneg (fitness : Fitness) : Prop :=
  ∀ p score, fitness p = .ok score → 0 ≤ score.toInt

/-- The scores that are given. Nothing is said of a program whose scoring breaks off. -/
def Fitness.scored (fitness : Fitness) : Program → Int32 := fun p => (fitness p).toOption.getD 0

theorem Fitness.Nonneg.scored {fitness : Fitness} (h : fitness.Nonneg) (p : Program) :
    0 ≤ (fitness.scored p).toInt := by
  unfold Fitness.scored
  cases hp : fitness p with
  | error b => exact Int.le_refl 0
  | ok score => exact h p score hp

theorem Fitness.nonneg_total {f : Program → Int32} (h : ∀ p, 0 ≤ (f p).toInt) :
    (Fitness.total f).Nonneg :=
  fun p _ hp => Except.ok.inj hp ▸ h p

namespace Engine

variable {fitness : Fitness} {e next last : Engine} {stats : Stats}

/-- A step that succeeds has scored every program, so it is one by the scores alone. -/
theorem step_scored (h : e.step fitness = .ok (stats, next)) :
    e.step (.total fitness.scored) = .ok (stats, next) := by
  obtain ⟨scores, hev, hrest⟩ := bind_eq_ok.mp h
  have hmap := mapM_eq_ok.mp (evaluate_eq_ok_iff.mp hev)
  have hscores : e.population.toList.map fitness.scored = scores := by
    have h := congrArg (List.map fun x : Except Breakdown Int32 => x.toOption.getD 0) hmap
    rw [List.map_map, List.map_map] at h
    exact h.trans (List.map_id scores)
  rw [step, evaluate_total, hscores]
  exact hrest

/-! ## Runs by one fitness -/

/-- The runs that steps and runs by one fitness lead to from a beginning. -/
inductive Evolved (fitness : Fitness) : Engine → Prop
  | new {settings : EvolutionSettings} {build : PoolBuilder} {e : Engine}
      (h : new settings build = .ok e) : Evolved fitness e
  | step {e next : Engine} {stats : Stats} (he : Evolved fitness e)
      (h : e.step fitness = .ok (stats, next)) : Evolved fitness next
  | run {e : Engine} (he : Evolved fitness e) : Evolved fitness (e.run fitness).engine

/-- What holds at the beginning and is kept by every step holds of all of them. -/
theorem Evolved.invariant (inv : Engine → Prop)
    (hnew : ∀ {settings build e}, Engine.new settings build = .ok e → inv e)
    (hstep : ∀ {e next stats}, inv e → e.step fitness = .ok (stats, next) → inv next)
    (he : e.Evolved fitness) : inv e := by
  induction he with
  | new h => exact hnew h
  | step _ h ih => exact hstep ih h
  | run _ ih => exact steps_invariant inv hstep ih (accounts_run _ _).steps_eq

theorem kept_new {f : Program → Int32} {settings : EvolutionSettings} {build : PoolBuilder}
    (h : new settings build = .ok e) : e.Kept f := by
  intro b hb
  rw [best_new h] at hb
  cases hb

/-- With elites the record has its score in the population. -/
theorem Evolved.kept (he : e.Evolved fitness) (helite : 1 ≤ e.settings.eliteCount) :
    e.Kept fitness.scored := by
  refine he.invariant (fun e => 1 ≤ e.settings.eliteCount → e.Kept fitness.scored)
    (fun h _ => kept_new h) (fun {e next stats} hkept hs helite => ?_) helite
  rw [settings_step hs] at helite
  exact ((hkept helite).step helite (step_scored hs)).1

/-- The run itself, or one that goes on from a checkpoint of it, under any settings. -/
inductive Continued (e : Engine) : Engine → Prop
  | same : Continued e e
  | resumed {settings : EvolutionSettings} {now : Timestamp} {build : PoolBuilder} {r : Engine}
      (h : resume settings (e.checkpoint now) build = .ok r) : Continued e r

namespace Continued

variable {r : Engine}

theorem best_eq (h : e.Continued r) : r.best = e.best := by
  cases h with
  | same => rfl
  | resumed h =>
    obtain ⟨generator, -, -, rfl⟩ := resume_cases h
    rfl

theorem population_eq (h : e.Continued r) : r.population = e.population := by
  cases h with
  | same => rfl
  | resumed h =>
    obtain ⟨generator, -, -, rfl⟩ := resume_cases h
    exact Array.toArray_toList

theorem kept {f : Program → Int32} (h : e.Continued r) (he : e.Kept f) : r.Kept f := by
  intro b hb
  rw [h.best_eq] at hb
  rw [h.population_eq]
  exact he b hb

end Continued

/-! ## A perfect record -/

section
variable {b : Best} (hf : fitness.Nonneg) (hb : e.best = some b) (hperfect : b.score = 0)
include hf hb hperfect

/-- Nothing scores below a perfect record, so it stays. -/
theorem best_step_of_perfect (hs : e.step fitness = .ok (stats, next)) : next.best = some b := by
  obtain ⟨i, p, -, -, -, -, hbest, -, -⟩ := step_leader (step_scored hs)
  rcases e.newBest_cases p (fitness.scored p) with ⟨-, hlt⟩ | ⟨old, hold, -, hnew⟩
  · have hneg : (fitness.scored p).toInt < 0 := by simpa [hperfect] using hlt b hb
    exact absurd (hf.scored p) (Int.not_le.mpr hneg)
  · rw [hbest, hnew, ← hold, hb]

theorem best_run_of_perfect : (e.run fitness).engine.best = some b :=
  steps_invariant (fun e => e.best = some b)
    (fun hb hs => best_step_of_perfect hf hb hperfect hs) hb (accounts_run fitness e).steps_eq

/-- Where the population has kept the score, the leader is perfect as well. -/
theorem Kept.best_of_perfect (hkept : e.Kept fitness.scored)
    (hs : e.step fitness = .ok (stats, next)) : stats.best = 0 := by
  obtain ⟨i, p, hp, hbest, -⟩ := step_leader (step_scored hs)
  obtain ⟨-, hle⟩ := hkept.score_newBest hp
  have hle : (fitness.scored p).toInt ≤ 0 := by simpa [hperfect] using hle b hb
  rw [hbest]
  exact Int32.toInt_inj.mp (Int.le_antisymm hle (hf.scored p))

/-- So a run that is to stop at a perfect program does so after one generation. -/
theorem Kept.run_of_perfect (hkept : e.Kept fitness.scored)
    (hstop : e.settings.stopOnPerfect = true) (hleft : 0 < e.left)
    (hs : e.step fitness = .ok (stats, next)) :
    stats.best = 0 ∧ e.run fitness = ⟨next, [stats], .ok true⟩ := by
  have hzero := hkept.best_of_perfect hf hb hperfect hs
  refine ⟨hzero, ?_⟩
  rw [run_of_lt (generation_lt_iff.mpr hleft), hs]
  simp [hstop, hzero]

end

/-- A run that can take a step begins with it. -/
theorem exists_reports_of_step (hleft : 0 < e.left) (hs : e.step fitness = .ok (stats, next)) :
    ∃ more, (e.run fitness).reports = stats :: more := by
  rw [run_of_lt (generation_lt_iff.mpr hleft), hs]
  dsimp only
  split
  · exact ⟨[], rfl⟩
  · exact ⟨_, rfl⟩

/-- A run changes nothing exactly if no generation is left or the next step fails. -/
theorem engine_run_eq_iff :
    (e.run fitness).engine = e ↔ e.left = 0 ∨ ∃ f, e.step fitness = .error f := by
  constructor
  · intro h
    have hacc := accounts_run fitness e
    have hreports : (e.run fitness).reports = [] := by
      have hgen := generation_steps hacc.steps_eq
      rw [h] at hgen
      exact List.eq_nil_of_length_eq_zero (by omega)
    cases hs : e.step fitness with
    | error f => exact .inr ⟨f, rfl⟩
    | ok p =>
      refine .inl (Nat.eq_zero_of_not_pos fun hleft => ?_)
      obtain ⟨more, hmore⟩ := exists_reports_of_step hleft hs
      rw [hreports] at hmore
      cases hmore
  · rintro (hleft | ⟨f, hs⟩)
    · rw [run_of_left_eq_zero hleft]
    · by_cases hleft : e.left = 0
      · rw [run_of_left_eq_zero hleft]
      · rw [run_of_lt (generation_lt_iff.mpr (Nat.pos_of_ne_zero hleft)), hs]

/-- A run whose first population has a perfect program stops there, and knows it. -/
theorem run_of_new_perfect {settings : EvolutionSettings} {build : PoolBuilder} {n : Nat}
    {bests : List Int32} (hstop : settings.stopOnPerfect = true)
    (hgens : 0 < settings.generations)
    (hbests : ((new settings build >>= steps fitness (n + 1)).map
      fun p => p.1.map Stats.best).toOption = some (0 :: bests)) :
    ∃ first e stats reports last b, new settings build = .ok first ∧
      first.step fitness = .ok (stats, e) ∧ first.run fitness = ⟨e, [stats], .ok true⟩ ∧
      e.best = some b ∧ b.score = 0 ∧ e.settings = settings ∧ e.generation.toNat = 1 ∧
      e.steps fitness n = .ok (reports, last) ∧ reports.map Stats.best = bests := by
  obtain ⟨⟨all, last⟩, h, hall⟩ := map_eq_ok.mp (eq_ok_of_toOption hbests)
  obtain ⟨first, hnew, hsteps⟩ := bind_eq_ok.mp h
  obtain ⟨stats, e, reports, hstep, hrest, rfl⟩ := steps_succ_cases hsteps
  obtain ⟨hzero, hreports⟩ := List.cons.inj hall
  have hset := (ready_new hnew).2
  have hrun : first.run fitness = ⟨e, [stats], .ok true⟩ := by
    rw [run_of_lt (by rwa [generation_new hnew, hset]), hstep]
    simp [hset, hstop, hzero]
  obtain ⟨i, p, hp, hbest, -, -, hrecord, -⟩ := step_leader (step_scored hstep)
  have hscore := ((kept_new hnew).score_newBest hp).1
  refine ⟨first, e, stats, reports, last, _, hnew, hstep, hrun, hrecord, ?_, ?_, ?_, hrest,
    hreports⟩
  · rw [hscore, ← hbest, hzero]
  · rw [settings_step hstep, hset]
  · rw [(generation_step hstep).2, generation_new hnew]
    rfl

/-- A perfect program that is known does not keep a run from scoring another generation.
Take any run by a fitness that is never negative whose best program scores 0, or one that
goes on from a checkpoint of it under settings to stop at a perfect program. Running it
does not touch the best program. It touches nothing at all exactly if no generation is
left or the next step fails, and without a generation left it reports nothing. Otherwise
it begins with a report of one more generation, and that is all it does if the run has
had elites: the report is of a perfect program again, and the run stops early. -/
theorem run_after_perfect {b : Best} {r : Engine} (hf : fitness.Nonneg)
    (he : e.Evolved fitness) (hr : e.Continued r) (hstop : r.settings.stopOnPerfect = true)
    (hb : e.best = some b) (hperfect : b.score = 0) :
    (r.run fitness).engine.best = some b ∧
    ((r.run fitness).engine = r ↔ r.left = 0 ∨ ∃ f, r.step fitness = .error f) ∧
    (r.left = 0 → r.run fitness = ⟨r, [], .ok false⟩) ∧
    (∀ stats next, 0 < r.left → r.step fitness = .ok (stats, next) →
      (∃ more, (r.run fitness).reports = stats :: more) ∧
      (1 ≤ e.settings.eliteCount →
        stats.best = 0 ∧ r.run fitness = ⟨next, [stats], .ok true⟩)) := by
  have hbr : r.best = some b := hr.best_eq.trans hb
  refine ⟨best_run_of_perfect hf hbr hperfect, engine_run_eq_iff, run_of_left_eq_zero, ?_⟩
  intro stats next hleft hs
  refine ⟨exists_reports_of_step hleft hs, fun helite => ?_⟩
  exact (hr.kept (he.kept helite)).run_of_perfect hf hbr hperfect hstop hleft hs

/-- Programs of up to three nodes are perfect, all others equally bad. -/
def short (p : Program) : Int32 := if p.size ≤ 3 then 0 else 1

theorem nonneg_short : (Fitness.total short).Nonneg := by
  refine Fitness.nonneg_total fun p => ?_
  unfold short
  split
  · decide
  · decide

/-- One program at a time, which is kept, in a run that stops at a perfect one. -/
def keen : EvolutionSettings where
  populationSize := 1
  generations := 3
  eliteCount := 1
  crossoverFraction := 0.0
  seed := 3
  stopOnPerfect := true
  growth := ⟨1, 2⟩

theorem bests_keen :
    ((new keen (.upTo 4) >>= steps (.total short) 2).map fun p => p.1.map Stats.best).toOption =
      some [0, 0] := by
  simp only [new, steps, step, bind_assoc, pure_bind, breed, rank_eq_insertionSort]
  decide +kernel

/-- The run stops after its first generation. It is resumed with nine generations, and
stops after its second. -/
theorem run_after_perfect_keen :
    ∃ first e r stats stats' next b, new keen (.upTo 4) = .ok first ∧
      first.run (.total short) = ⟨e, [stats], .ok true⟩ ∧
      resume { keen with generations := 9 } (e.checkpoint ⟨739251, 43200, 5⟩) (.upTo 4) = .ok r ∧
      e.best = some b ∧ b.score = 0 ∧ (r.run (.total short)).engine ≠ r ∧
      (r.run (.total short)).engine.best = some b ∧ stats'.best = 0 ∧
      r.run (.total short) = ⟨next, [stats'], .ok true⟩ := by
  obtain ⟨first, e, stats, reports, last, b, hnew, hstep, hrun, hb, hzero, hset, hgen, hsteps, -⟩ :=
    run_of_new_perfect rfl (by decide) bests_keen
  obtain ⟨stats', next, rest, hs, -, -⟩ := steps_succ_cases hsteps
  have he : e.Evolved (.total short) := .step (.new hnew) hstep
  have halike : { keen with generations := 9 }.BreedAlike e.settings :=
    hset ▸ ⟨rfl, rfl, rfl, rfl, rfl⟩
  have hresume := resume_checkpoint ((ready_new hnew).1.step hstep) rfl
    (PoolBuilder.upTo_eq_ok (Nat.le_refl 4) _) halike ⟨739251, 43200, 5⟩
  have hleft : 0 < (e.withSettings { keen with generations := 9 }).left := by
    show 0 < 9 - e.generation.toNat
    omega
  have hs' := step_withSettings halike (.total short)
  rw [hs] at hs'
  obtain ⟨hbest, hiff, -, hlast⟩ :=
    run_after_perfect nonneg_short he (.resumed hresume) rfl hb hzero
  obtain ⟨-, hone⟩ := hlast _ _ hleft hs'
  obtain ⟨hperfect, hlast⟩ := hone (by rw [hset]; decide)
  refine ⟨first, e, _, stats, stats', _, b, hnew, hrun, hresume, hb, hzero, ?_, hbest, hperfect,
    hlast⟩
  rw [Ne, hiff, hs']
  rintro (h | ⟨f, ⟨⟩⟩)
  omega

/-- The run `keen` without elites. -/
def fickle : EvolutionSettings := { keen with eliteCount := 0 }

theorem bests_fickle :
    ((new fickle (.upTo 4) >>= steps (.total short) 3).map fun p => p.1.map Stats.best).toOption =
      some [0, 1, 1] := by
  simp only [new, steps, step, bind_assoc, pure_bind, breed, rank_eq_insertionSort]
  decide +kernel

/-- Evolution does not stop for good: a run has stopped early, at a perfect program, and
run once more it scores all generations that are left and does not stop early. -/
theorem run_perfect_again :
    ∃ first e last stats reports b, new fickle (.upTo 4) = .ok first ∧
      first.run (.total short) = ⟨e, [stats], .ok true⟩ ∧ e.Evolved (.total short) ∧
      (Fitness.total short).Nonneg ∧ e.settings.stopOnPerfect = true ∧
      e.best = some b ∧ b.score = 0 ∧ e.generation.toNat = 1 ∧
      e.run (.total short) = ⟨last, reports, .ok false⟩ ∧
      reports.map Stats.best = [1, 1] ∧ last.generation.toNat = 3 := by
  obtain ⟨first, e, stats, reports, last, b, hnew, hstep, hrun, hb, hzero, hset, hgen, hsteps,
    hbests⟩ := run_of_new_perfect rfl (by decide) bests_fickle
  have hleft : e.left = 2 := by
    rw [left, hset, hgen]
    rfl
  have hgo : e.settings.stopOnPerfect = true → ∀ s ∈ reports, s.best ≠ 0 := by
    intro _ s hs
    have hmem : s.best ∈ [1, 1] := hbests ▸ List.mem_map_of_mem hs
    intro h
    rw [h] at hmem
    revert hmem
    decide
  have hlast : last.generation.toNat = 3 := by rw [generation_steps hsteps, hgen]
  have hdone : last.left = 0 := by
    rw [left, hlast, settings_steps hsteps, hset]
    rfl
  have hagain := run_of_steps hsteps hleft.ge hgo
  rw [run_of_left_eq_zero hdone, List.append_nil] at hagain
  exact ⟨first, e, last, stats, reports, b, hnew, hrun, .step (.new hnew) hstep, nonneg_short,
    hset ▸ rfl, hb, hzero, hgen, hagain, hbests, hlast⟩

end Engine
end AntTrail
