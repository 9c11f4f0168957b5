import AntTrail.Proofs.Evolution.Step
import AntTrail.Proofs.Evolution.Stored
import AntTrail.Proofs.Timestamp.Bounds

/-!
# Interrupting a run changes nothing

Of the settings, breeding reads the population size, the number of elites, the
size of tournaments, the share of offspring and the bounds on growth. A run whose
other settings are exchanged goes on in lockstep with the run as it was
(`step_withSettings`, `steps_withSettings`), and a run resumed from a stored
checkpoint is exactly the run that was interrupted with its settings exchanged
(`resume_checkpoint`). The workers are started anew for it, and may be refused then.
-/
namespace AntTrail

/-- Two settings by which populations are bred alike: they differ at most in seed,
workers, end of the run and trial. -/
structure EvolutionSettings.BreedAlike (s t : EvolutionSettings) : Prop where
  populationSize : s.populationSize = t.populationSize
  eliteCount : s.eliteCount = t.eliteCount
  tournamentSize : s.tournamentSize = t.tournamentSize
  crossoverFraction : s.crossoverFraction = t.crossoverFraction
  growth : s.growth = t.growth

theorem EvolutionSettings.BreedAlike.breedTarget {s t : EvolutionSettings} (h : s.BreedAlike t) :
    s.breedTarget = t.breedTarget := by
  rw [EvolutionSettings.breedTarget, EvolutionSettings.breedTarget, h.populationSize,
    h.crossoverFraction]

namespace Engine

/-- The run with other settings. -/
def withSettings (e : Engine) (settings : EvolutionSettings) : Engine := { e with settings }

/-! ## Lockstep -/

section
variable {e : Engine} {settings : EvolutionSettings} (h : settings.BreedAlike e.settings)
include h

theorem parent_withSettings (scores : Array Int32) :
    (e.withSettings settings).parent scores = e.parent scores := by
  simp only [parent, withSettings, h.tournamentSize]
  rfl

theorem pair_withSettings (scores : Array Int32) :
    (e.withSettings settings).pair scores = e.pair scores := by
  rw [pair, pair, parent_withSettings h]

theorem offspring_withSettings (scores : Array Int32) (n : Nat) :
    (e.withSettings settings).offspring scores n = e.offspring scores n := by
  induction n using offspring.induct with
  | case1 => rfl
  | case2 => rw [offspring, offspring, pair_withSettings h]
  | case3 n ih => rw [offspring, offspring, pair_withSettings h, ih]

theorem breed_withSettings (scores : List Int32) (ranked : List Placing) :
    (e.withSettings settings).breed scores ranked = e.breed scores ranked := by
  rw [breed, breed]
  simp only [offspring_withSettings h]
  simp only [withSettings, h.populationSize, h.eliteCount, h.breedTarget]
  rfl

/-- A step does not see the settings that breeding does not read. -/
theorem step_withSettings (fitness : Fitness) :
    (e.withSettings settings).step fitness =
      (e.step fitness).map fun p => (p.1, p.2.withSettings settings) := by
  have he : (e.withSettings settings).evaluate fitness = e.evaluate fitness := rfl
  rw [step, step, he]
  cases e.evaluate fitness with
  | error f => rfl
  | ok scores =>
    rw [ok_bind, ok_bind]
    cases rank scores with
    | nil => rfl
    | cons leader others =>
      show (e.member leader.index >>= _) = Except.map _ (e.member leader.index >>= _)
      cases e.member leader.index with
      | error f => rfl
      | ok program =>
        show (((e.withSettings settings).breed scores (leader :: others)).run e.source >>= _) =
          Except.map _ ((e.breed scores (leader :: others)).run e.source >>= _)
        -- the one place where a step reads its settings
        rw [breed_withSettings h]
        cases (e.breed scores (leader :: others)).run e.source with
        | error f => rfl
        | ok p =>
          show (if e.generation.toNat + 1 = UInt64.size then _ else _) =
            Except.map _ (if e.generation.toNat + 1 = UInt64.size then _ else _)
          split
          · rfl
          · rfl

/-- Any number of steps does not see them. -/
theorem steps_withSettings (fitness : Fitness) (n : Nat) :
    (e.withSettings settings).steps fitness n =
      (e.steps fitness n).map fun p => (p.1, p.2.withSettings settings) := by
  induction n generalizing e with
  | zero => rfl
  | succ n ih =>
    show ((e.withSettings settings).step fitness >>= _) = Except.map _ (e.step fitness >>= _)
    rw [step_withSettings h]
    cases hs : e.step fitness with
    | error f => rfl
    | ok p =>
      obtain ⟨stats, next⟩ := p
      -- a step keeps the settings, so those that bred alike still do
      have hnext : settings.BreedAlike next.settings := settings_step hs ▸ h
      show ((next.withSettings settings).steps fitness n >>= _) =
        Except.map _ (next.steps fitness n >>= _)
      rw [ih hnext]
      cases next.steps fitness n with
      | error f => rfl
      | ok p => rfl

end

/-! ## Resuming -/

/-- Settings that pass their check are accepted as soon as their bounds on growth
are. -/
theorem accept_of_check {settings : EvolutionSettings} {generator : Generator}
    (hc : settings.check = .ok ()) (hg : Generator.ofBounds settings.growth = .ok generator) :
    accept settings = .ok generator := by
  rw [accept, hc, hg]
  rfl

/-- A run resumed from a checkpoint is the run that was interrupted, with other
settings, if the workers that these demand start. -/
theorem resume_checkpoint {e : Engine} (he : e.Ready) {settings : EvolutionSettings}
    {build : PoolBuilder} (hc : settings.check = .ok ())
    (hworkers : build settings.numWorkers workerName = .ok ())
    (h : settings.BreedAlike e.settings) (now : Timestamp) :
    resume settings (e.checkpoint now) build = .ok (e.withSettings settings) := by
  have hg : Generator.ofBounds settings.growth = .ok e.generator := by
    rw [h.growth]
    exact ofBounds_of_accept he.accepted
  have ha := assemble_eq_ok_iff.mpr ⟨accept_of_check hc hg, hworkers⟩
  have hl : (e.checkpoint now).population.length = settings.populationSize := by
    rw [h.populationSize, ← he.size_eq]
    exact Array.length_toList
  have hs : (e.checkpoint now).source.restore = e.source := Draw.Source.restore_save e.source
  have hp : (e.checkpoint now).population.toArray = e.population := Array.toArray_toList
  rw [resume, ha, if_neg (Decidable.not_not.mpr hl)]
  show Except.ok (⟨settings, e.generator, (e.checkpoint now).source.restore,
    (e.checkpoint now).population.toArray, e.generation, e.best⟩ : Engine) = _
  rw [hs, hp]
  rfl

/-- The checkpoint of a run comes back from its bytes. -/
theorem decode_encode_checkpoint {e : Engine} (he : e.Ready)
    (hs : e.settings.populationSize < UInt64.size) {now : Timestamp}
    (ht : Timestamp.read now.text = .ok now) :
    Checkpoint.decode (e.checkpoint now).encode = .ok (e.checkpoint now) := by
  have hp : (e.checkpoint now).population.length < UInt64.size := by
    rw [← he.size_eq] at hs
    exact Array.length_toList ▸ hs
  have hr := Checkpoint.run_encode (c := e.checkpoint now) ht
    (Timestamp.length_encode_text_lt ht) hp []
  rw [List.append_nil] at hr
  rw [Checkpoint.decode, run'_eq_ok.mpr ⟨_, hr⟩]
  exact if_pos rfl

/-- Interrupting a run is invisible. After any number of generations the run is
written down and read back, and goes on under settings that breed alike: it is
the same but for its settings, and so is whatever comes of any number of further
steps, the reports among it. A population is counted in 64 bits, and the instant
is one whose text is read back. The workers that the settings demand have to start
once more, by whatever means there then are. -/
theorem resume_decode_steps {settings settings' : EvolutionSettings} {build build' : PoolBuilder}
    {fitness : Fitness} {n : Nat} {first e : Engine} {reports : List Stats} {now : Timestamp}
    (hnew : new settings build = .ok first) (hsteps : first.steps fitness n = .ok (reports, e))
    (hsize : settings.populationSize < UInt64.size) (hnow : Timestamp.read now.text = .ok now)
    (hcheck : settings'.check = .ok ()) (halike : settings'.BreedAlike settings)
    (hworkers : build' settings'.numWorkers workerName = .ok ()) :
    ∃ c resumed, Checkpoint.decode (e.checkpoint now).encode = .ok c ∧
      resume settings' c build' = .ok resumed ∧ resumed = e.withSettings settings' ∧
      ∀ m, resumed.steps fitness m =
        (e.steps fitness m).map fun p => (p.1, p.2.withSettings settings') := by
  obtain ⟨hready, hkept⟩ := ready_new hnew
  -- settings and size of the population are those of the beginning
  obtain ⟨he, hset⟩ := steps_invariant (fun e => e.Ready ∧ e.settings = settings)
    (fun h hs => ⟨h.1.step hs, (settings_step hs).trans h.2⟩) ⟨hready, hkept⟩ hsteps
  rw [← hset] at hsize halike
  exact ⟨_, _, decode_encode_checkpoint he hsize hnow,
    resume_checkpoint he hcheck hworkers halike now, rfl,
    fun m => steps_withSettings halike fitness m⟩

/-- The smallest run: one program and no elites. -/
def solitary : EvolutionSettings where
  populationSize := 1
  eliteCount := 0
  growth := ⟨1, 2⟩

/-- Programs scored by the number of their nodes. -/
def bySize : Fitness := fun p => .ok (Int32.ofNat p.size)

theorem resume_decode_steps_solitary :
    ∃ first reports e c resumed, new solitary (.upTo 4) = .ok first ∧
      first.steps bySize 1 = .ok (reports, e) ∧
      Checkpoint.decode (e.checkpoint ⟨739251, 43200, 5⟩).encode = .ok c ∧
      resume { solitary with seed := 1, numWorkers := 2 } c (.upTo 2) = .ok resumed ∧
      ∀ m, resumed.steps bySize m = (e.steps bySize m).map fun p =>
        (p.1, p.2.withSettings { solitary with seed := 1, numWorkers := 2 }) := by
  -- The share of offspring is rounded in floating point, so both outcomes are run.
  have hk : solitary.breedTarget = 0 ∨ solitary.breedTarget = 1 := by
    have : solitary.breedTarget ≤ 1 := solitary.breedTarget_le
    omega
  have hrun : (new solitary (.upTo 4) >>= steps bySize 1).isOk := by
    simp only [new, steps, step, bind_assoc, pure_bind, breed]
    generalize solitary.breedTarget = k at *
    rcases hk with rfl | rfl
    · decide +kernel
    · decide +kernel
  obtain ⟨⟨reports, e⟩, he⟩ := exists_of_isOk hrun
  obtain ⟨first, hnew, hsteps⟩ := bind_eq_ok.mp he
  have hnow : Timestamp.read (Timestamp.text ⟨739251, 43200, 5⟩) = .ok ⟨739251, 43200, 5⟩ := by rfl
  have hcheck : EvolutionSettings.check { solitary with seed := 1, numWorkers := 2 } = .ok () := by
    rfl
  obtain ⟨c, resumed, hc, hr, -, hm⟩ := resume_decode_steps hnew hsteps (by decide) hnow hcheck
    ⟨rfl, rfl, rfl, rfl, rfl⟩ (PoolBuilder.upTo_eq_ok (Nat.le_refl 2) _)
  exact ⟨first, reports, e, c, resumed, hnew, hsteps, hc, hr, hm⟩

end Engine
end AntTrail
