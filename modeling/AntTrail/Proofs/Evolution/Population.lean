import Mathlib.Algebra.Group.Nat.Defs
import AntTrail.Proofs.Evolution.Ranking
import AntTrail.Proofs.Evolution.Step
import AntTrail.Proofs.Program.Growth

/-!
# The populations of a run

Programs come into a population in three ways: as elites of the one before, as children
of two of its members, and as fresh random programs. All three give branches for roots.
Elites are no higher than they were and fresh programs no higher than the settings
allow, but a child can have nearly the levels of both its parents, so the bound on the
levels below the root's children doubles from one generation to the next
(`Branching.step`).
-/
namespace AntTrail

namespace Generator

variable {g : Generator} {post : Program → Prop}

theorem forall_mem_chunk (hg : Ensures g.generate post) {seed : UInt64} {n : Nat}
    {ps : List Program} (h : g.chunk seed n = .ok ps) : ∀ p ∈ ps, post p := by
  obtain ⟨s, hs⟩ := run'_eq_ok.mp h
  exact Draw.ensures_times_all hg n _ _ _ hs

theorem forall_mem_chunks (hg : Ensures g.generate post) {seeds : List UInt64} {count : Nat}
    {ps : List Program} (h : g.chunks seeds count = .ok ps) : ∀ p ∈ ps, post p := by
  induction seeds generalizing count ps with
  | nil =>
    obtain rfl := Except.ok.inj h
    exact nofun
  | cons seed seeds ih =>
    obtain ⟨front, hfront, h⟩ := bind_eq_ok.mp h
    obtain ⟨rest, hrest, h⟩ := bind_eq_ok.mp h
    obtain rfl := pure_eq_ok.mp h
    exact List.forall_mem_append.mpr ⟨forall_mem_chunk hg hfront, ih hrest⟩

/-- Whatever holds of every random program holds of those that fill a population. -/
theorem ensures_refill_all (hg : Ensures g.generate post) (count : Nat) :
    Ensures (g.refill count) fun ps => ∀ p ∈ ps, post p :=
  .after fun _ => .lift fun _ h => forall_mem_chunks hg h

end Generator

namespace Engine

variable {fitness : Fitness} {e next : Engine} {stats : Stats}

/-! ## Where programs come from -/

theorem mem_of_member {i : Nat} {p : Program} (h : e.member i = .ok p) : p ∈ e.population :=
  Array.mem_of_getElem? (member_eq_ok_iff.mp h)

theorem ensures_parent (e : Engine) (scores : Array Int32) :
    Ensures (e.parent scores) (· ∈ e.population) := by
  refine .after fun winner => ?_
  cases winner with
  | some i => exact .lift fun p h => mem_of_member h
  | none => exact .throw

/-- What holds of both children of every pair holds of all offspring. -/
theorem ensures_offspring {scores : Array Int32} (post : Program → Prop)
    (h : Ensures (e.pair scores) fun c => post c.1 ∧ post c.2) (n : Nat) :
    Ensures (e.offspring scores n) fun ps => ∀ p ∈ ps, post p := by
  induction n using offspring.induct with
  | case1 => exact .pure nofun
  | case2 => exact .bind h fun c hc => .pure (by simpa using hc.1)
  | case3 n ih =>
    exact .bind h fun c hc => .bind ih fun rest hrest => .pure
      (List.forall_mem_cons.mpr ⟨hc.1, List.forall_mem_cons.mpr ⟨hc.2, hrest⟩⟩)

/-! ## What they have in common -/

theorem ensures_generate_of_accept {settings : EvolutionSettings} {generator : Generator}
    (h : accept settings = .ok generator) :
    Ensures generator.generate (·.BranchWithin settings.growth.maxHeight) := by
  have hg := ofBounds_of_accept h
  have hb : generator.bounds = settings.growth := by
    obtain ⟨-, -, -, rfl⟩ := Generator.ofKinds_cases hg
    rfl
  exact hb ▸ (Generator.sound_ofKinds hg).ensures_generate

/-- A run whose programs have branches for roots and at most `levels` levels below the
root's children, as fresh programs do. -/
structure Branching (e : Engine) (levels : Nat) : Prop where
  ready : e.Ready
  maxHeight_le : e.settings.growth.maxHeight ≤ levels + 1
  within : ∀ p ∈ e.population, p.BranchWithin (levels + 1)

namespace Branching

variable {levels : Nat}

theorem ensures_generate (he : e.Branching levels) :
    Ensures e.generator.generate (·.BranchWithin (levels + 1)) :=
  (ensures_generate_of_accept he.ready.accepted).weaken fun _ hp => hp.mono he.maxHeight_le

theorem ensures_pair (he : e.Branching levels) (scores : Array Int32) :
    Ensures (e.pair scores) fun c =>
      c.1.BranchWithin (2 * levels + 1) ∧ c.2.BranchWithin (2 * levels + 1) := by
  refine .bind (ensures_parent e scores) fun p hp => ?_
  refine .bind (ensures_parent e scores) fun q hq => ensures_drawing ?_
  have hl : levels + 1 + (levels + 1) - 1 = 2 * levels + 1 := by omega
  exact hl ▸ Program.ensures_crossover (he.within p hp) (he.within q hq)

theorem within_breed (he : e.Branching levels) {scores : List Int32} {ranked : List Placing}
    {s s' : Draw.Source} {population : List Program}
    (h : (e.breed scores ranked).run s = .ok (population, s')) :
    ∀ p ∈ population, p.BranchWithin (2 * levels + 1) := by
  obtain ⟨elites, children, fresh, s₁, hel, hc, -, hf, rfl⟩ := breed_cases h
  -- elites and fresh programs keep even to the old bound
  have hkeep : levels + 1 ≤ 2 * levels + 1 := by omega
  have helites : ∀ p ∈ elites, p.BranchWithin (2 * levels + 1) := by
    intro p hp
    obtain ⟨r, -, hr⟩ := exists_of_mapM_eq_ok (mapM_eq_ok.mpr hel) hp
    exact (he.within p (mem_of_member hr)).mono hkeep
  have hchildren : ∀ p ∈ children, p.BranchWithin (2 * levels + 1) :=
    ensures_offspring (·.BranchWithin _) (he.ensures_pair scores.toArray) _ _ _ _ hc
  have hfresh := Generator.ensures_refill_all (he.ensures_generate.weaken fun _ hp => hp.mono hkeep)
    _ _ _ _ hf
  exact List.forall_mem_append.mpr ⟨List.forall_mem_append.mpr ⟨helites, hchildren⟩, hfresh⟩

/-- From one generation to the next the levels at most double. -/
theorem step (he : e.Branching levels) (h : e.step fitness = .ok (stats, next)) :
    next.Branching (2 * levels) := by
  have hready := he.ready.step h
  obtain ⟨scores, leader, others, program, population, source, -, -, -, -, hb, -, rfl⟩ :=
    step_cases h
  have hmax := he.maxHeight_le
  refine ⟨hready, show e.settings.growth.maxHeight ≤ _ by omega, fun p hp => ?_⟩
  exact he.within_breed hb p (List.mem_toArray.mp hp)

theorem steps (he : e.Branching levels) {n : Nat} {reports : List Stats} {last : Engine}
    (h : e.steps fitness n = .ok (reports, last)) : last.Branching (2 ^ n * levels) := by
  induction n generalizing e levels reports with
  | zero =>
    obtain ⟨-, rfl⟩ := Prod.mk.inj (Except.ok.inj h)
    simpa using he
  | succ n ih =>
    obtain ⟨stats, next, rest, h₁, h₂, -⟩ := steps_succ_cases h
    have hlevels : 2 ^ n * (2 * levels) = 2 ^ (n + 1) * levels := by
      rw [Nat.pow_succ, Nat.mul_assoc]
    exact hlevels ▸ ih (he.step h₁) h₂

end Branching

theorem branching_new {settings : EvolutionSettings} {build : PoolBuilder}
    (h : new settings build = .ok e) : e.Branching (settings.growth.maxHeight - 1) := by
  obtain ⟨hready, hset⟩ := ready_new h
  obtain ⟨generator, programs, source, h₁, h₂, rfl⟩ := new_cases h
  have ha := (assemble_eq_ok_iff.mp h₁).1
  have hprograms := Generator.ensures_refill_all (ensures_generate_of_accept ha) _ _ _ _ h₂
  have hle : settings.growth.maxHeight ≤ settings.growth.maxHeight - 1 + 1 := by omega
  exact ⟨hready, hle, fun p hp => (hprograms p (List.mem_toArray.mp hp)).mono hle⟩

/-- The populations of a run. After any number of generations there are as many programs
as the settings demand. Each has a branch for its root, and so the two nodes without which
crossover would hand it on as it is, and each generation has at most doubled the levels
below the root's children. -/
theorem steps_population {settings : EvolutionSettings} {build : PoolBuilder} {n : Nat}
    {first : Engine} {reports : List Stats} (hnew : new settings build = .ok first)
    (hsteps : first.steps fitness n = .ok (reports, e)) :
    e.population.size = settings.populationSize ∧
      ∀ p ∈ e.population, p.isLeaf = false ∧ 2 ≤ p.size ∧ 1 ≤ p.height ∧
        p.height ≤ 2 ^ n * (settings.growth.maxHeight - 1) + 1 := by
  have he := (branching_new hnew).steps hsteps
  have hset : e.settings = settings := (settings_steps hsteps).trans (ready_new hnew).2
  refine ⟨hset ▸ he.ready.size_eq, fun p hp => ?_⟩
  have hw := he.within p hp
  exact ⟨hw.isLeaf_eq, hw.two_le_size, Program.height_pos_iff.mpr hw.isLeaf_eq, hw.height_le⟩

/-- A small run: three programs, of which the best one is kept. -/
def trio : EvolutionSettings where
  populationSize := 3
  eliteCount := 1
  tournamentSize := 2
  growth := ⟨1, 2⟩

/-- The number of levels of a program, as a score. -/
def levelCount (p : Program) : Int32 := Int32.ofNat p.height

theorem isOk_trio : (new trio (.upTo 4) >>= steps (.total levelCount) 1).isOk := by
  -- a sort that evaluates stands in for the merge sort
  simp only [new, steps, step, bind_assoc, pure_bind, breed, rank_eq_insertionSort]
  decide +kernel

theorem steps_population_trio :
    ∃ first reports e, new trio (.upTo 4) = .ok first ∧
      first.steps (.total levelCount) 1 = .ok (reports, e) ∧
      e.population.size = 3 ∧
      ∀ p ∈ e.population, p.isLeaf = false ∧ 2 ≤ p.size ∧ 1 ≤ p.height ∧ p.height ≤ 3 := by
  obtain ⟨⟨reports, e⟩, he⟩ := exists_of_isOk isOk_trio
  obtain ⟨first, hnew, hsteps⟩ := bind_eq_ok.mp he
  exact ⟨first, reports, e, hnew, hsteps, steps_population hnew hsteps⟩

end Engine
end AntTrail
