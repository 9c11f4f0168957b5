import AntTrail.Proofs.Evolution.Population
import AntTrail.Proofs.Evolution.Progress

/-!
# A generation happens as a whole or not at all

A step gives no engine when it fails, so that what was before still stands. Carried out
in place it is less plain that nothing is left behind: the best program is recorded and
the source drawn from before breeding can fail. `attempt` is the step in place. Of all
that can fail only the scoring of programs is an error and not the end of everything, and
it comes before anything is changed, so a failed attempt leaves the run as it was
(`Ready.attempt_error`). That holds of every run there can be (`Reached`).
-/
namespace AntTrail.Engine

variable {fitness : Fitness} {e after : Engine} {stats : Stats} {err : EvolutionError}

/-- A step in place: what comes of it, and the run that it leaves, succeeding or not.
Where breeding fails, the source has come to `astray`, of which nothing is assumed. -/
def attempt (fitness : Fitness) (astray : Draw.Source) (e : Engine) :
    Except (Failure EvolutionError) Stats × Engine :=
  match e.evaluate fitness with
  | .error f => (.error f, e)
  | .ok scores =>
    match rank scores with
    | [] => (.error (.error .noPrograms), e)
    | leader :: others =>
      match e.member leader.index with
      | .error f => (.error f, e)
      | .ok program =>
        let stats := Stats.ofRanked e.generation (leader :: others) program.postfixText program.size
        -- the record is kept from here on, whatever comes of breeding
        let recorded := { e with best := some (e.newBest program leader.score) }
        match (e.breed scores (leader :: others)).run e.source with
        | .error f => (.error f, { recorded with source := astray })
        | .ok (next, source) =>
          let bred := { recorded with source, population := next.toArray }
          if e.generation.toNat + 1 = UInt64.size then (.error (.fault .addOverflow), bred)
          else (.ok stats, { bred with generation := e.generation + 1 })

theorem attempt_of_evaluate_error {f : Failure EvolutionError} (h : e.evaluate fitness = .error f)
    (astray : Draw.Source) : e.attempt fitness astray = (.error f, e) := by
  rw [attempt, h]

/-- In place the same comes of a step, and where it succeeds the same run is left. -/
theorem attempt_eq (fitness : Fitness) (astray : Draw.Source) (e : Engine) :
    (∃ f, e.step fitness = .error f ∧ (e.attempt fitness astray).1 = .error f) ∨
      ∃ stats next, e.step fitness = .ok (stats, next) ∧
        e.attempt fitness astray = (.ok stats, next) := by
  rw [attempt, step]
  cases e.evaluate fitness with
  | error f => exact .inl ⟨f, rfl, rfl⟩
  | ok scores =>
    rw [ok_bind]
    dsimp only
    cases rank scores with
    | nil => exact .inl ⟨_, rfl, rfl⟩
    | cons leader others =>
      dsimp only
      cases e.member leader.index with
      | error f => exact .inl ⟨f, rfl, rfl⟩
      | ok program =>
        rw [ok_bind]
        dsimp only
        cases (e.breed scores (leader :: others)).run e.source with
        | error f => exact .inl ⟨f, rfl, rfl⟩
        | ok p =>
          rw [ok_bind]
          dsimp only
          split
          · exact .inl ⟨_, rfl, rfl⟩
          · exact .inr ⟨_, _, rfl, rfl⟩

theorem attempt_of_step_error {f : Failure EvolutionError} (h : e.step fitness = .error f)
    (astray : Draw.Source) : (e.attempt fitness astray).1 = .error f := by
  rcases attempt_eq fitness astray e with ⟨f', hs, hf⟩ | ⟨stats, next, hs, -⟩
  · rw [h] at hs
    obtain rfl := Except.error.inj hs
    exact hf
  · rw [h] at hs
    cases hs

theorem attempt_of_step_ok (h : e.step fitness = .ok (stats, after)) (astray : Draw.Source) :
    e.attempt fitness astray = (.ok stats, after) := by
  rcases attempt_eq fitness astray e with ⟨f, hs, -⟩ | ⟨stats', next, hs, ha⟩
  · rw [h] at hs
    cases hs
  · rw [h] at hs
    obtain ⟨rfl, rfl⟩ := Prod.mk.inj (Except.ok.inj hs)
    exact ha

theorem step_of_attempt_ok {astray : Draw.Source}
    (h : e.attempt fitness astray = (.ok stats, after)) : e.step fitness = .ok (stats, after) := by
  rcases attempt_eq fitness astray e with ⟨f, -, hf⟩ | ⟨stats', next, hs, ha⟩
  · rw [h] at hf
    cases hf
  · rw [h] at ha
    obtain ⟨hstats, rfl⟩ := Prod.mk.inj ha
    rw [hs, Except.ok.inj hstats]

/-- An error in place is that of scoring a program, and leaves the run as it was. -/
theorem Ready.attempt_error (he : e.Ready) {astray : Draw.Source}
    (h : e.attempt fitness astray = (.error (.error err), after)) :
    after = e ∧ ∃ p ∈ e.population, ∃ b, fitness p = .error b ∧ err = .brokeOff b := by
  rcases attempt_eq fitness astray e with ⟨f, hs, hf⟩ | ⟨stats', next, hs, ha⟩
  · rw [h] at hf
    obtain rfl := Except.error.inj hf
    rcases he.step_error_cases hs with hev | ⟨-, hb | ⟨hover, -⟩⟩
    · rw [attempt_of_evaluate_error hev, Prod.mk.injEq] at h
      obtain ⟨p, hp, b, hb, hbroke⟩ := evaluate_error_cases hev
      exact ⟨h.2.symm, p, hp, b, hb, by simpa using hbroke⟩
    · cases hb
    · cases hover
  · rw [h] at ha
    cases ha

/-! ## The runs there can be -/

/-- The runs that stand between two generations: those that begin or go on from a
checkpoint, and what an attempt leaves of one, succeeding or with an error. The scoring
may break off on other programs each time. -/
inductive Reached : Engine → Prop
  | new {settings : EvolutionSettings} {build : PoolBuilder} {e : Engine}
      (h : new settings build = .ok e) : Reached e
  | resume {settings : EvolutionSettings} {c : Checkpoint} {build : PoolBuilder} {e : Engine}
      (h : resume settings c build = .ok e) : Reached e
  | succeeded {fitness : Fitness} {e after : Engine} {stats : Stats} {astray : Draw.Source}
      (he : Reached e) (h : e.attempt fitness astray = (.ok stats, after)) : Reached after
  | failed {fitness : Fitness} {e after : Engine} {err : EvolutionError} {astray : Draw.Source}
      (he : Reached e) (h : e.attempt fitness astray = (.error (.error err), after)) :
      Reached after

theorem Reached.ready (he : e.Reached) : e.Ready := by
  induction he with
  | new h => exact (ready_new h).1
  | resume h => exact ready_resume h
  | succeeded _ h ih => exact ih.step (step_of_attempt_ok h)
  | failed _ h ih => exact (ih.attempt_error h).1 ▸ ih

/-- Where the scoring of a program breaks off, that is all that happens. -/
theorem attempt_of_broken {p : Program} (hp : p ∈ e.population) {b : Breakdown}
    (hb : fitness p = .error b) (astray : Draw.Source) :
    ∃ err, e.attempt fitness astray = (.error (.error err), e) := by
  cases hev : e.evaluate fitness with
  | error f =>
    obtain ⟨_, -, b', -, rfl⟩ := evaluate_error_cases hev
    exact ⟨_, attempt_of_evaluate_error hev astray⟩
  | ok scores =>
    obtain ⟨score, hs⟩ := exists_score hev hp
    rw [hb] at hs
    cases hs

/-- A population that can be scored is followed by the next one, if all draws end and no
tournament is to be held with more candidates than a list can hold. -/
theorem Ready.attempt_ok (he : e.Ready) (hgen : e.generation.toNat + 1 < UInt64.size)
    {scores : List Int32} (hscores : e.evaluate fitness = .ok scores) {astray : Draw.Source}
    (hends : (e.attempt fitness astray).1 ≠ .error (.fault .endlessDraw))
    (hfits : e.settings.tournamentSize ≤ maxCandidates ∨
      e.settings.breedTarget ≤ e.settings.eliteCount) :
    ∃ stats next, e.attempt fitness astray = (.ok stats, next) := by
  rcases attempt_eq fitness astray e with ⟨f, hs, hf⟩ | ⟨stats, next, -, ha⟩
  · have hne : f ≠ .fault .endlessDraw := by
      rintro rfl
      exact hends hf
    rw [he.evaluate_of_step_error hgen hfits hs hne] at hscores
    cases hscores
  · exact ⟨stats, next, ha⟩

/-- Where a tournament cannot be held, the record has been kept by then, and nothing else
is changed but the source. -/
theorem Ready.attempt_of_crowded (he : e.Ready) {scores : List Int32}
    (hscores : e.evaluate fitness = .ok scores)
    (hheld : e.settings.eliteCount < e.settings.breedTarget)
    (hsize : maxCandidates < e.settings.tournamentSize) :
    ∃ p ∈ e.population, ∃ score, fitness p = .ok score ∧
      ∀ astray, e.attempt fitness astray = (.error (.fault .capacityOverflow),
        { e with source := astray, best := some (e.newBest p score) }) := by
  have hs := length_evaluate hscores
  obtain ⟨leader, others, p, hr, hp⟩ := he.exists_leader hs
  obtain ⟨hmem, hscore⟩ := score_of_member hscores (hr ▸ List.mem_cons_self) hp
  refine ⟨p, hmem, leader.score, hscore, fun astray => ?_⟩
  have hbreed := he.breed_crowded hs hheld hsize e.source
  rw [hr] at hbreed
  simp only [attempt, hscores, hr, hp, hbreed]

/-- A generation happens as a whole or not at all. In every run there can be whose next
generation can be counted, a step in place ends in an error exactly when the scoring of a
program of the population breaks off; then that is the error, and the run is as it was.
Otherwise it succeeds, as the step does that is not in place, provided that its draws end
and that the candidates of a tournament fit into a list or none is to be held. A
tournament that does not fit ends everything as soon as the population has been scored. -/
theorem attempt_atomic (fitness : Fitness) (he : e.Reached)
    (hgen : e.generation.toNat + 1 < UInt64.size) (astray : Draw.Source) :
    ((∃ err, (e.attempt fitness astray).1 = .error (.error err)) ↔
      ∃ p ∈ e.population, ∃ b, fitness p = .error b) ∧
    (∀ err, (e.attempt fitness astray).1 = .error (.error err) →
      (e.attempt fitness astray).2 = e ∧
        ∃ p ∈ e.population, ∃ b, fitness p = .error b ∧ err = .brokeOff b) ∧
    ((∀ p ∈ e.population, ∃ score, fitness p = .ok score) →
      ((e.attempt fitness astray).1 ≠ .error (.fault .endlessDraw) →
        e.settings.tournamentSize ≤ maxCandidates ∨
          e.settings.breedTarget ≤ e.settings.eliteCount →
        ∃ stats next, e.attempt fitness astray = (.ok stats, next) ∧
          e.step fitness = .ok (stats, next)) ∧
      (maxCandidates < e.settings.tournamentSize →
        e.settings.eliteCount < e.settings.breedTarget →
        (e.attempt fitness astray).1 = .error (.fault .capacityOverflow))) := by
  have hready := he.ready
  have herror : ∀ err, (e.attempt fitness astray).1 = .error (.error err) →
      (e.attempt fitness astray).2 = e ∧
        ∃ p ∈ e.population, ∃ b, fitness p = .error b ∧ err = .brokeOff b := by
    intro err h
    exact hready.attempt_error (Prod.ext h rfl)
  refine ⟨⟨?_, ?_⟩, herror, ?_⟩
  · rintro ⟨err, h⟩
    obtain ⟨-, p, hp, b, hb, -⟩ := herror err h
    exact ⟨p, hp, b, hb⟩
  · rintro ⟨p, hp, b, hb⟩
    obtain ⟨err, h⟩ := attempt_of_broken hp hb astray
    exact ⟨err, congrArg Prod.fst h⟩
  · intro hall
    obtain ⟨scores, hscores⟩ := exists_evaluate hall
    constructor
    · intro hends hfits
      obtain ⟨stats, next, h⟩ := hready.attempt_ok hgen hscores hends hfits
      exact ⟨stats, next, h, step_of_attempt_ok h⟩
    · intro hsize hheld
      exact attempt_of_step_error (hready.step_crowded hscores hheld hsize) astray

/-- A scoring that always breaks off. -/
def broken : Fitness := fun _ => .error ⟨none⟩

theorem attempt_atomic_trio :
    ∃ first, new trio (.upTo 4) = .ok first ∧ first.generation.toNat + 1 < UInt64.size ∧
      (∃ stats next, first.attempt (.total levelCount) first.source = (.ok stats, next)) ∧
      (∃ err, (first.attempt broken first.source).1 = .error (.error err)) ∧
      (first.attempt broken first.source).2 = first := by
  obtain ⟨⟨reports, last⟩, h⟩ := exists_of_isOk isOk_trio
  obtain ⟨first, hnew, hsteps⟩ := bind_eq_ok.mp h
  obtain ⟨stats, next, rest, hstep, -, -⟩ := steps_succ_cases hsteps
  have hgen : first.generation.toNat + 1 < UInt64.size := by
    rw [generation_new hnew]
    decide
  have hset := (ready_new hnew).2
  have hends :
      (first.attempt (.total levelCount) first.source).1 ≠ .error (.fault .endlessDraw) := by
    rw [attempt_of_step_ok hstep]
    nofun
  obtain ⟨-, -, hok⟩ := attempt_atomic (.total levelCount) (.new hnew) hgen first.source
  obtain ⟨stats, next, hattempt, -⟩ := (hok fun p _ => ⟨levelCount p, rfl⟩).1 hends
    (.inl (by rw [hset]; decide))
  obtain ⟨hiff, herror, -⟩ := attempt_atomic broken (.new hnew) hgen first.source
  have hpos := (ready_new hnew).1.population_pos
  obtain ⟨err, herr⟩ := hiff.mpr ⟨first.population[0], Array.getElem_mem hpos, ⟨none⟩, rfl⟩
  exact ⟨first, hnew, hgen, ⟨stats, next, hattempt⟩, ⟨err, herr⟩, (herror err herr).1⟩

/-- Settings that ask for one candidate more than a list can hold. -/
def crowded : EvolutionSettings where
  populationSize := 3
  generations := 1
  eliteCount := 1
  tournamentSize := maxCandidates + 1
  crossoverFraction := 1.0
  growth := ⟨1, 2⟩

theorem exists_new_crowded :
    ∃ first, new crowded (.upTo 4) = .ok first ∧
      first.step (.total levelCount) = .error (.fault .capacityOverflow) := by
  have h : (new crowded (.upTo 4)).isOk := by decide +kernel
  obtain ⟨first, hnew⟩ := exists_of_isOk h
  obtain ⟨hready, hset⟩ := ready_new hnew
  obtain ⟨scores, hscores⟩ := exists_evaluate (e := first) fun p _ =>
    ⟨levelCount p, (rfl : Fitness.total levelCount p = _)⟩
  exact ⟨first, hnew, hready.step_crowded hscores (by rw [hset]; decide) (by rw [hset]; decide)⟩

/-- Not every population that can be scored is followed by another: settings pass their
check although no tournament can be held under them. -/
theorem attempt_crowded :
    ∃ first, new crowded (.upTo 4) = .ok first ∧ first.generation.toNat + 1 < UInt64.size ∧
      (∀ p ∈ first.population, ∃ score, Fitness.total levelCount p = .ok score) ∧
      ∀ astray, (first.attempt (.total levelCount) astray).1 =
        .error (.fault .capacityOverflow) := by
  obtain ⟨first, hnew, hstep⟩ := exists_new_crowded
  refine ⟨first, hnew, ?_, fun p _ => ⟨levelCount p, rfl⟩, attempt_of_step_error hstep⟩
  rw [generation_new hnew]
  decide

end AntTrail.Engine
