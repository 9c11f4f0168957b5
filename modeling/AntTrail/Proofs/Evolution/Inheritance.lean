import AntTrail.Proofs.Evolution.Record
import AntTrail.Proofs.Evolution.Resumption

/-!
# The record that a run is given

A run that goes on from a checkpoint takes the best program over with the score that is
written there. Nothing in a checkpoint says by what fitness that score was given, and it
is not computed again. What the run records itself has the score of its own fitness
(`Best.Earned`); what it was given stays for as long as no program of the run beats it
(`Best.Unbeaten`), whatever it would score now. So the score of the best program is that
of the run's fitness if it was so at the beginning, and in a run that was given nothing.
-/
namespace AntTrail

namespace Best

variable {b : Best} {f : Program → Int32} {past : List (Array Program)}
  {population : Array Program}

/-- The program was met in one of some populations, and has the score it has there. -/
structure Earned (b : Best) (f : Program → Int32) (past : List (Array Program)) : Prop where
  score_eq : b.score = f b.program
  mem : ∃ population ∈ past, b.program ∈ population

theorem Earned.append (h : b.Earned f past) : b.Earned f (past ++ [population]) := by
  obtain ⟨held, hheld, hb⟩ := h.mem
  exact ⟨h.score_eq, held, List.mem_append_left _ hheld, hb⟩

/-- No program of some populations does better. -/
def Unbeaten (b : Best) (f : Program → Int32) (past : List (Array Program)) : Prop :=
  ∀ population ∈ past, ∀ p ∈ population, b.score.toInt ≤ (f p).toInt

theorem unbeaten_append :
    b.Unbeaten f (past ++ [population]) ↔
      b.Unbeaten f past ∧ ∀ p ∈ population, b.score.toInt ≤ (f p).toInt := by
  simp only [Unbeaten, List.forall_mem_append, List.forall_mem_singleton]

end Best

namespace Engine

variable {f : Program → Int32} {e first next last : Engine} {stats : Stats}

/-- How a run can begin, and the record that it is given. -/
inductive Begun : Option Best → Engine → Prop
  | new {settings : EvolutionSettings} {build : PoolBuilder} {e : Engine}
      (h : new settings build = .ok e) : Begun none e
  | resume {settings : EvolutionSettings} {c : Checkpoint} {build : PoolBuilder} {e : Engine}
      (h : resume settings c build = .ok e) : Begun c.best e

theorem Begun.best_eq {given : Option Best} (h : Begun given e) : e.best = given := by
  cases h with
  | new h => exact best_new h
  | resume h =>
    obtain ⟨generator, -, -, rfl⟩ := resume_cases h
    rfl

/-- The record is replaced by a program that does better, and only by such a one. -/
theorem newBest_cases (e : Engine) (p : Program) (score : Int32) :
    e.newBest p score = ⟨p, score, e.generation⟩ ∧
        (∀ b, e.best = some b → score.toInt < b.score.toInt) ∨
      ∃ b, e.best = some b ∧ b.score.toInt ≤ score.toInt ∧ e.newBest p score = b := by
  unfold newBest
  cases e.best with
  | none => exact .inl ⟨rfl, nofun⟩
  | some b =>
    dsimp only
    split
    · next hlt => exact .inl ⟨rfl, fun b' hb' => Option.some.inj hb' ▸ hlt⟩
    · next hle => exact .inr ⟨b, rfl, Int.not_lt.mp hle, rfl⟩

/-- The record of a run that was given `given` and has scored the populations `past`
since: one of its own, or the one it was given as long as that is not beaten. -/
structure Heir (e : Engine) (f : Program → Int32) (given : Option Best)
    (past : List (Array Program)) : Prop where
  earned_or : ∀ b, e.best = some b → b.Earned f past ∨ given = some b ∧ b.Unbeaten f past
  best_eq : ∀ b, given = some b → b.Unbeaten f past → e.best = some b

namespace Heir

variable {given : Option Best} {past : List (Array Program)}

theorem step (h : e.Heir f given past) (hs : e.step (.total f) = .ok (stats, next)) :
    next.Heir f given (past ++ [e.population]) := by
  obtain ⟨i, p, hp, -, -, -, hbest, -, -⟩ := step_leader hs
  have hmem : p ∈ e.population := Array.mem_of_getElem? hp.getElem?_eq
  constructor
  · intro b hb
    obtain rfl := Option.some.inj (hbest.symm.trans hb)
    rcases e.newBest_cases p (f p) with ⟨hnew, -⟩ | ⟨old, hold, hle, hnew⟩
    · rw [hnew]
      exact .inl ⟨rfl, e.population, by simp, hmem⟩
    · rw [hnew]
      rcases h.earned_or old hold with hearned | ⟨hgiven, hun⟩
      · exact .inl hearned.append
      · -- the leader does not beat it, so nobody does
        right
        refine ⟨hgiven, Best.unbeaten_append.mpr ⟨hun, ?_⟩⟩
        intro q hq
        exact Int.le_trans hle (hp.le q hq)
  · intro b hb hun
    obtain ⟨hpast, hpop⟩ := Best.unbeaten_append.mp hun
    have hold := h.best_eq b hb hpast
    rcases e.newBest_cases p (f p) with ⟨-, hlt⟩ | ⟨old, hold', -, hnew⟩
    · exact absurd (hlt b hold) (Int.not_lt.mpr (hpop p hmem))
    · rw [hbest, hnew, ← hold', hold]

theorem steps (h : e.Heir f given past) {n : Nat} {reports : List Stats}
    (hs : e.steps (.total f) n = .ok (reports, last)) :
    last.Heir f given (past ++ e.populations (.total f) n) :=
  populations_invariant (fun e past => e.Heir f given past) (fun h hs => h.step hs) h hs

end Heir

theorem Begun.heir {given : Option Best} (h : Begun given e) : e.Heir f given [] where
  earned_or _ hb := .inr ⟨h.best_eq ▸ hb, nofun⟩
  best_eq _ hb _ := h.best_eq.trans hb

/-- After a step there is a record. -/
theorem exists_best_of_step (h : e.step (.total f) = .ok (stats, next)) :
    ∃ b, next.best = some b := by
  obtain ⟨i, p, -, -, -, -, hbest, -, -⟩ := step_leader h
  exact ⟨_, hbest⟩

theorem exists_best_of_steps {n : Nat} {reports : List Stats}
    (h : e.steps (.total f) (n + 1) = .ok (reports, last)) : ∃ b, last.best = some b := by
  obtain ⟨stats, next, rest, h₁, h₂, -⟩ := steps_succ_cases h
  exact steps_invariant (fun e => ∃ b, e.best = some b) (fun _ hs => exists_best_of_step hs)
    (exists_best_of_step h₁) h₂

/-- The best score of a run is one that its own fitness gives, unless it was given with
the record from which the run went on. After any number of generations the best program
has the score of the run's fitness if the record at the beginning had; in general it is
either a program that the run has met, with the score of its fitness, or the record at
the beginning, which is kept exactly as long as no program of the run beats it. After
the first generation there always is one. -/
theorem best_score {given : Option Best} (h : Begun given first) {n : Nat} {reports : List Stats}
    (hs : first.steps (.total f) n = .ok (reports, last)) :
    ((∀ b, given = some b → b.score = f b.program) →
      ∀ b, last.best = some b → b.score = f b.program) ∧
    (∀ b, last.best = some b →
      b.Earned f (first.populations (.total f) n) ∨
        given = some b ∧ b.Unbeaten f (first.populations (.total f) n)) ∧
    (∀ b, given = some b → b.Unbeaten f (first.populations (.total f) n) →
      last.best = some b) ∧
    (1 ≤ n → ∃ b, last.best = some b) := by
  have hheir := (h.heir (f := f)).steps hs
  rw [List.nil_append] at hheir
  refine ⟨?_, hheir.earned_or, hheir.best_eq, ?_⟩
  · intro hgiven b hb
    rcases hheir.earned_or b hb with hearned | ⟨hb, -⟩
    · exact hearned.score_eq
    · exact hgiven b hb
  · intro hn
    obtain ⟨m, rfl⟩ := Nat.exists_eq_add_of_le' hn
    exact exists_best_of_steps hs

theorem best_score_trio :
    ∃ first reports last, new trio (.upTo 4) = .ok first ∧ Begun none first ∧
      first.steps (.total levelCount) 1 = .ok (reports, last) ∧
      ∃ b, last.best = some b ∧ b.score = levelCount b.program := by
  obtain ⟨⟨reports, last⟩, h⟩ := exists_of_isOk isOk_trio
  obtain ⟨first, hnew, hsteps⟩ := bind_eq_ok.mp h
  obtain ⟨hscore, -, -, hsome⟩ := best_score (.new hnew) hsteps
  obtain ⟨b, hb⟩ := hsome (by decide)
  exact ⟨first, reports, last, hnew, .new hnew, hsteps, b, hb, hscore nofun b hb⟩

/-- Every program scored alike. -/
def flat (score : Int32) : Program → Int32 := fun _ => score

/-- A run does not come to know that its best score is not one of its fitness: where all
programs score 1, the best score stays the 0 of a checkpoint that was taken where all
scored 0. -/
theorem stale_best :
    ∃ first stats mid resumed reports last b, new solitary (.upTo 4) = .ok first ∧
      first.step (.total (flat 0)) = .ok (stats, mid) ∧
      resume solitary (mid.checkpoint ⟨739251, 43200, 5⟩) (.upTo 4) = .ok resumed ∧
      resumed.steps (.total (flat 1)) 1 = .ok (reports, last) ∧
      last.best = some b ∧ b.score ≠ flat 1 b.program := by
  have hrun : (new solitary (.upTo 4) >>= fun first => first.step (.total (flat 0)) >>= fun p =>
      p.2.steps (.total (flat 1)) 1).isOk := by
    decide +kernel
  obtain ⟨⟨reports, last⟩, h⟩ := exists_of_isOk hrun
  obtain ⟨first, hnew, h⟩ := bind_eq_ok.mp h
  obtain ⟨⟨stats, mid⟩, hstep, hsteps⟩ := bind_eq_ok.mp h
  obtain ⟨hready, hset⟩ := ready_new hnew
  have hmid : solitary = mid.settings := by rw [settings_step hstep, hset]
  have hresume : resume solitary (mid.checkpoint ⟨739251, 43200, 5⟩) (.upTo 4) = .ok mid := by
    have halike : solitary.BreedAlike mid.settings := hmid ▸ ⟨rfl, rfl, rfl, rfl, rfl⟩
    have hworkers := PoolBuilder.upTo_eq_ok (Nat.le_refl 4) workerName
    rw [resume_checkpoint (hready.step hstep) rfl hworkers halike, withSettings, hmid]
  obtain ⟨i, p, -, -, -, -, hbest, -, -⟩ := step_leader hstep
  have hzero : (first.newBest p (flat 0 p)).score = 0 := by
    rcases ((Begun.new hnew).heir.step hstep).earned_or _ hbest with hearned | ⟨⟨⟩, -⟩
    exact hearned.score_eq
  have hunbeaten : ∀ past, (first.newBest p (flat 0 p)).Unbeaten (flat 1) past := by
    intro past population _ q _
    rw [hzero]
    exact (by decide : (0 : Int32).toInt ≤ (1 : Int32).toInt)
  have hkept := ((Begun.resume hresume).heir.steps hsteps).best_eq _ hbest (hunbeaten _)
  refine ⟨first, stats, mid, mid, reports, last, _, hnew, hstep, hresume, hsteps, hkept, ?_⟩
  rw [hzero]
  exact (by decide : (0 : Int32) ≠ 1)

end Engine
end AntTrail
