import AntTrail.Evolution.Engine
import AntTrail.Proofs.Draw

/-!
# Steps of a run

How a run begins (`Engine.new_cases`), what a successful step does (`Engine.step_cases`)
and how it breeds (`Engine.breed_cases`), and what every number of steps keeps: the
settings, the generator, and the size of the population. The size holds because the
refill tops up whatever the elites and the children leave.
-/
namespace AntTrail

/-- Programs scored by a function, so that no scoring breaks off. -/
def Fitness.total (f : Program → Int32) : Fitness := fun p => .ok (f p)

/-- Starts workers unless there are more of them than the system allows. -/
def PoolBuilder.upTo (limit : Nat) : PoolBuilder := fun threads _ =>
  if threads ≤ limit then .ok () else .error "Resource temporarily unavailable (os error 11)"

theorem PoolBuilder.upTo_eq_ok {limit threads : Nat} (h : threads ≤ limit) (name : Nat → String) :
    PoolBuilder.upTo limit threads name = .ok () :=
  if_pos h

/-! ## Refilling -/

namespace Generator

theorem length_chunk {g : Generator} {seed : UInt64} {n : Nat} {ps : List Program}
    (h : g.chunk seed n = .ok ps) : ps.length = n := by
  obtain ⟨s, hs⟩ := run'_eq_ok.mp h
  exact Draw.ensures_times _ n _ _ _ hs

theorem length_chunks {g : Generator} {seeds : List UInt64} {count : Nat} {ps : List Program}
    (hs : seeds.length = chunkCount count) (h : g.chunks seeds count = .ok ps) :
    ps.length = count := by
  induction seeds generalizing count ps with
  | nil =>
    obtain rfl := Except.ok.inj h
    simp only [chunkCount, chunkSize, List.length_nil] at hs ⊢
    omega
  | cons seed seeds ih =>
    obtain ⟨front, h₁, h₂⟩ := bind_eq_ok.mp h
    obtain ⟨rest, h₃, h₄⟩ := bind_eq_ok.mp h₂
    obtain rfl := pure_eq_ok.mp h₄
    simp only [chunkCount, chunkSize, List.length_cons] at hs
    have hrest := ih (by simp only [chunkCount, chunkSize]; omega) h₃
    rw [List.length_append, length_chunk h₁, hrest]
    simp only [chunkSize]
    omega

theorem ensures_refill (g : Generator) (count : Nat) :
    Ensures (g.refill count) (·.length = count) :=
  .bind (Draw.ensures_times _ _) fun _ hs => .lift fun _ h => length_chunks hs h

end Generator

namespace Engine

theorem ensures_drawing {α : Type} {d : Draw α} {post : α → Prop} (h : Ensures d post) :
    Ensures (drawing d) post := by
  intro s a s' hr
  exact h _ _ _ (mapError_eq_ok.mp hr)

/-! ## One step -/

variable {fitness : Fitness} {e next : Engine} {stats : Stats}

theorem member_eq_ok_iff {i : Nat} {p : Program} :
    e.member i = .ok p ↔ e.population[i]? = some p := by
  unfold member
  cases e.population[i]? with
  | none => simp
  | some q => simp

/-- How a population is bred: the elites as they are, then children up to the breed
target, then fresh programs for the slots that are left. -/
theorem breed_cases {scores : List Int32} {ranked : List Placing} {s s' : Draw.Source}
    {population : List Program} (h : (e.breed scores ranked).run s = .ok (population, s')) :
    ∃ elites children fresh s₁,
      (ranked.take e.settings.eliteCount).map (fun r => e.member r.index) = elites.map .ok ∧
      (e.offspring scores.toArray (e.settings.breedTarget - elites.length)).run s =
        .ok (children, s₁) ∧
      elites.length + children.length ≤ e.settings.populationSize ∧
      (e.generator.refill (e.settings.populationSize - (elites.length + children.length))).run s₁ =
        .ok (fresh, s') ∧
      population = elites ++ children ++ fresh := by
  obtain ⟨elites, s₀, h₁, h⟩ := run_bind_eq_ok.mp h
  rw [mapM_lift] at h₁
  obtain ⟨he, rfl⟩ := run_lift_eq_ok.mp h₁
  obtain ⟨children, s₁, hc, h⟩ := run_bind_eq_ok.mp h
  dsimp only at h
  split at h
  · obtain ⟨_, _, ht, -⟩ := run_bind_eq_ok.mp h
    exact absurd ht run_throw_ne_ok
  · next hfit =>
    obtain ⟨fresh, s₂, hf, h⟩ := run_bind_eq_ok.mp h
    obtain ⟨rfl, rfl⟩ := run_pure_eq_ok.mp h
    exact ⟨elites, children, fresh, s₁, mapM_eq_ok.mp he, hc, Nat.le_of_not_lt hfit,
      mapError_eq_ok.mp hf, rfl⟩

theorem ensures_breed (e : Engine) (scores : List Int32) (ranked : List Placing) :
    Ensures (e.breed scores ranked) (·.length = e.settings.populationSize) := by
  intro s population s' h
  obtain ⟨elites, children, fresh, s₁, -, -, hfit, hf, rfl⟩ := breed_cases h
  -- elites and children fit, so the fresh programs make up the rest
  have hl := Generator.ensures_refill _ _ _ _ _ hf
  rw [List.length_append, List.length_append, hl]
  omega

/-- What a successful step does: it scores, ranks, reports on the leader, breeds,
and takes the leader as the best program if it is better. -/
theorem step_cases (h : e.step fitness = .ok (stats, next)) :
    ∃ scores leader others program population source,
      e.evaluate fitness = .ok scores ∧ rank scores = leader :: others ∧
      e.member leader.index = .ok program ∧
      stats = Stats.ofRanked e.generation (rank scores) program.postfixText program.size ∧
      (e.breed scores (rank scores)).run e.source = .ok (population, source) ∧
      e.generation.toNat + 1 ≠ UInt64.size ∧
      next = { e with
        source
        population := population.toArray
        generation := e.generation + 1
        best := some (e.newBest program leader.score) } := by
  obtain ⟨scores, h₁, h⟩ := bind_eq_ok.mp h
  cases hr : rank scores with
  | nil => simp [hr] at h
  | cons leader others =>
    simp only [hr] at h
    obtain ⟨program, h₂, h⟩ := bind_eq_ok.mp h
    obtain ⟨⟨population, source⟩, h₃, h⟩ := bind_eq_ok.mp h
    dsimp only at h
    split at h
    · cases h
    · next hg =>
      obtain ⟨rfl, rfl⟩ := Prod.mk.inj (Except.ok.inj h)
      exact ⟨scores, leader, others, program, population, source, h₁, hr, h₂, by rw [hr],
        by rw [hr]; exact h₃, hg, rfl⟩

/-! ## Many steps -/

/-- The next `n` steps: what is reported of each, and the run after them. -/
def steps (fitness : Fitness) : Nat → Engine → Except (Failure EvolutionError) (List Stats × Engine)
  | 0, e => .ok ([], e)
  | n + 1, e => do
    let (stats, next) ← e.step fitness
    let (reports, last) ← next.steps fitness n
    return (stats :: reports, last)

theorem steps_succ_cases {n : Nat} {reports : List Stats} {last : Engine}
    (h : e.steps fitness (n + 1) = .ok (reports, last)) :
    ∃ stats next rest, e.step fitness = .ok (stats, next) ∧
      next.steps fitness n = .ok (rest, last) ∧ reports = stats :: rest := by
  obtain ⟨⟨stats, next⟩, h₁, h⟩ := bind_eq_ok.mp h
  obtain ⟨⟨rest, last⟩, h₂, h₃⟩ := bind_eq_ok.mp h
  obtain ⟨rfl, rfl⟩ := Prod.mk.inj (Except.ok.inj h₃)
  exact ⟨stats, next, rest, h₁, h₂, rfl⟩

theorem steps_succ_eq_ok {n : Nat} {rest : List Stats} {last : Engine}
    (h : e.step fitness = .ok (stats, next)) (hn : next.steps fitness n = .ok (rest, last)) :
    e.steps fitness (n + 1) = .ok (stats :: rest, last) := by
  rw [steps, h, ok_bind]
  show next.steps fitness n >>= _ = _
  rw [hn]
  rfl

theorem length_steps {n : Nat} {reports : List Stats} {last : Engine}
    (h : e.steps fitness n = .ok (reports, last)) : reports.length = n := by
  induction n generalizing e reports with
  | zero =>
    obtain ⟨rfl, -⟩ := Prod.mk.inj (Except.ok.inj h)
    rfl
  | succ n ih =>
    obtain ⟨stats, next, rest, -, h₂, rfl⟩ := steps_succ_cases h
    rw [List.length_cons, ih h₂]

/-- Each report is that of one step, between a shorter run and one longer by that step. -/
theorem step_of_steps {n g : Nat} {reports : List Stats} {last : Engine}
    (h : e.steps fitness n = .ok (reports, last)) (hg : reports[g]? = some stats) :
    ∃ before after, e.steps fitness g = .ok (reports.take g, before) ∧
      before.step fitness = .ok (stats, after) ∧
      e.steps fitness (g + 1) = .ok (reports.take (g + 1), after) := by
  induction n generalizing e reports g with
  | zero =>
    obtain ⟨rfl, -⟩ := Prod.mk.inj (Except.ok.inj h)
    cases hg
  | succ n ih =>
    obtain ⟨first, next, rest, h₁, h₂, rfl⟩ := steps_succ_cases h
    cases g with
    | zero =>
      obtain rfl := Option.some.inj hg
      exact ⟨e, next, rfl, h₁, steps_succ_eq_ok h₁ rfl⟩
    | succ g =>
      obtain ⟨before, after, hb, hs, ha⟩ := ih h₂ hg
      exact ⟨before, after, steps_succ_eq_ok h₁ hb, hs, steps_succ_eq_ok h₁ ha⟩

/-- What one step keeps, every number of steps keeps. -/
theorem steps_invariant (inv : Engine → Prop)
    (hstep : ∀ {e next stats}, inv e → e.step fitness = .ok (stats, next) → inv next) {n : Nat}
    {reports : List Stats} {last : Engine} (he : inv e)
    (h : e.steps fitness n = .ok (reports, last)) : inv last := by
  induction n generalizing e reports with
  | zero =>
    obtain ⟨-, rfl⟩ := Prod.mk.inj (Except.ok.inj h)
    exact he
  | succ n ih =>
    obtain ⟨stats, next, rest, h₁, h₂, -⟩ := steps_succ_cases h
    exact ih (hstep he h₁) h₂

/-! ## Beginning and going on -/

/-- A run with accepted settings, between two generations. -/
structure Ready (e : Engine) : Prop where
  accepted : accept e.settings = .ok e.generator
  size_eq : e.population.size = e.settings.populationSize

section
variable {settings : EvolutionSettings} {build : PoolBuilder} {generator : Generator}

theorem ofBounds_of_accept (h : accept settings = .ok generator) :
    Generator.ofBounds settings.growth = .ok generator := by
  obtain ⟨_, -, hg⟩ := bind_eq_ok.mp h
  exact mapError_eq_ok.mp hg

/-- A run is assembled if its settings are accepted and its workers start. -/
theorem assemble_eq_ok_iff :
    assemble settings build = .ok generator ↔
      accept settings = .ok generator ∧ build settings.numWorkers workerName = .ok () := by
  constructor
  · intro h
    obtain ⟨g, ha, h⟩ := bind_eq_ok.mp h
    obtain ⟨⟨⟩, hb, h⟩ := bind_eq_ok.mp h
    obtain rfl := pure_eq_ok.mp h
    exact ⟨ha, mapError_eq_ok.mp hb⟩
  · rintro ⟨ha, hb⟩
    rw [assemble, ha, hb]
    rfl

/-- How a run begins: with as many random programs as are wanted, and nothing recorded. -/
theorem new_cases (h : new settings build = .ok e) :
    ∃ generator programs source, assemble settings build = .ok generator ∧
      (generator.refill settings.populationSize).run (.ofSeed settings.seed) =
        .ok (programs, source) ∧
      e = {
        settings, generator, source
        population := programs.toArray
        generation := 0
        best := none } := by
  obtain ⟨generator, h₁, h⟩ := bind_eq_ok.mp h
  obtain ⟨⟨programs, source⟩, h₂, h₃⟩ := bind_eq_ok.mp h
  exact ⟨generator, programs, source, h₁, mapError_eq_ok.mp h₂, (Except.ok.inj h₃).symm⟩

theorem ready_new (h : new settings build = .ok e) : e.Ready ∧ e.settings = settings := by
  obtain ⟨generator, programs, source, h₁, h₂, rfl⟩ := new_cases h
  have hl := Generator.ensures_refill _ _ _ _ _ h₂
  exact ⟨⟨(assemble_eq_ok_iff.mp h₁).1, by simpa using hl⟩, rfl⟩

theorem generation_new (h : new settings build = .ok e) : e.generation = 0 := by
  obtain ⟨generator, programs, source, -, -, rfl⟩ := new_cases h
  rfl

/-- How a run goes on: with as many programs as are wanted, and all else from the
checkpoint. -/
theorem resume_cases {c : Checkpoint} (h : resume settings c build = .ok e) :
    ∃ generator, assemble settings build = .ok generator ∧
      c.population.length = settings.populationSize ∧
      e = {
        settings, generator
        source := c.source.restore
        population := c.population.toArray
        generation := c.generation
        best := c.best } := by
  obtain ⟨hl, h⟩ := ite_throw_eq_ok.mp h
  obtain ⟨generator, ha, h⟩ := bind_eq_ok.mp h
  exact ⟨generator, ha, Decidable.not_not.mp hl, (pure_eq_ok.mp h).symm⟩

theorem ready_resume {c : Checkpoint} (h : resume settings c build = .ok e) : e.Ready := by
  obtain ⟨generator, ha, hl, rfl⟩ := resume_cases h
  exact ⟨(assemble_eq_ok_iff.mp ha).1, hl⟩

end

/-! ## What steps keep -/

theorem Ready.step (he : e.Ready) (h : e.step fitness = .ok (stats, next)) : next.Ready := by
  obtain ⟨scores, leader, others, program, population, source, -, -, -, -, hb, -, rfl⟩ :=
    step_cases h
  have hl := ensures_breed _ _ _ _ _ _ hb
  exact ⟨he.accepted, by simpa using hl⟩

theorem settings_step (h : e.step fitness = .ok (stats, next)) : next.settings = e.settings := by
  obtain ⟨_, _, _, _, _, _, -, -, -, -, -, -, rfl⟩ := step_cases h
  rfl

theorem settings_steps {n : Nat} {reports : List Stats} {last : Engine}
    (h : e.steps fitness n = .ok (reports, last)) : last.settings = e.settings :=
  steps_invariant (fun next => next.settings = e.settings)
    (fun h hs => (settings_step hs).trans h) rfl h

/-! ## Counting generations -/

theorem generation_step (h : e.step fitness = .ok (stats, next)) :
    stats.generation = e.generation ∧ next.generation.toNat = e.generation.toNat + 1 := by
  obtain ⟨_, _, _, _, _, _, -, -, -, rfl, -, hg, rfl⟩ := step_cases h
  refine ⟨rfl, ?_⟩
  have hlt := e.generation.toNat_lt_size
  show (e.generation + 1).toNat = _
  rw [UInt64.toNat_add, show (1 : UInt64).toNat = 1 from rfl]
  exact Nat.mod_eq_of_lt (Nat.lt_of_le_of_ne hlt hg)

theorem generation_steps {n : Nat} {reports : List Stats} {last : Engine}
    (h : e.steps fitness n = .ok (reports, last)) :
    last.generation.toNat = e.generation.toNat + n := by
  induction n generalizing e reports with
  | zero =>
    obtain ⟨-, rfl⟩ := Prod.mk.inj (Except.ok.inj h)
    rfl
  | succ n ih =>
    obtain ⟨stats, next, rest, h₁, h₂, -⟩ := steps_succ_cases h
    rw [ih h₂, (generation_step h₁).2]
    omega

/-- Reports are numbered as their generations are. -/
theorem generation_report {n i : Nat} {reports : List Stats} {last : Engine}
    (h : e.steps fitness n = .ok (reports, last)) (hi : reports[i]? = some stats) :
    stats.generation.toNat = e.generation.toNat + i := by
  obtain ⟨before, after, hbefore, hstep, -⟩ := step_of_steps h hi
  rw [(generation_step hstep).1, generation_steps hbefore]

end Engine
end AntTrail
