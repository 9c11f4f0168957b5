import AntTrail.Proofs.Evolution.Population
import AntTrail.Proofs.Program.Notation

/-!
# The record of a run

The leader of a population is its first program of the lowest score (`Foremost`). What a
step says of the leader is collected in `step_leader`: it is what is reported, what is
kept in the first place if there are elites, and what is recorded if it is better than
all before. From step to step the record then stays the leader of all populations so
far, of the earliest one where several share the lowest score (`Recorded.steps`). With
elites no population does worse than the one before, so that the last report and the
record agree (`Kept.steps`).
-/
namespace AntTrail

/-! ## Leaders -/

/-- Place `i` holds `p`, no program of the population scores lower, and those in the
places before score higher. -/
structure Foremost (f : Program → Int32) (population : Array Program) (i : Nat) (p : Program) :
    Prop where
  getElem?_eq : population[i]? = some p
  le : ∀ q ∈ population, (f p).toInt ≤ (f q).toInt
  lt : ∀ j q, j < i → population[j]? = some q → (f p).toInt < (f q).toInt

/-- What is recorded is the leader of some populations, given in the order of their
generations: it has the lowest score of all their programs, its generation is the first
with that score, and there it is the first program with it. -/
structure Best.Leads (b : Best) (f : Program → Int32) (past : List (Array Program)) : Prop where
  score_eq : b.score = f b.program
  foremost : ∃ population i, past[b.generation.toNat]? = some population ∧
    Foremost f population i b.program
  le : ∀ population ∈ past, ∀ p ∈ population, b.score.toInt ≤ (f p).toInt
  lt : ∀ g population, g < b.generation.toNat → past[g]? = some population →
    ∀ p ∈ population, b.score.toInt < (f p).toInt

namespace Best

variable {f : Program → Int32} {past : List (Array Program)} {population : Array Program}

/-- The leader of a population that does better than all before. -/
theorem leads_of_lt {generation : UInt64} {i : Nat} {p : Program}
    (hg : generation.toNat = past.length) (hp : Foremost f population i p)
    (hlt : ∀ old ∈ past, ∀ q ∈ old, (f p).toInt < (f q).toInt) :
    Leads ⟨p, f p, generation⟩ f (past ++ [population]) where
  score_eq := rfl
  foremost := by
    refine ⟨population, i, ?_, hp⟩
    show (past ++ [population])[generation.toNat]? = some population
    rw [hg]
    simp
  le := by
    intro old hold q hq
    rcases List.mem_append.mp hold with hold | hold
    · exact Int.le_of_lt (hlt old hold q hq)
    · obtain rfl := List.mem_singleton.mp hold
      exact hp.le q hq
  lt := by
    intro g old hgen hold q hq
    have hgen : g < past.length := hg ▸ hgen
    rw [List.getElem?_append_left hgen] at hold
    exact hlt old (List.mem_of_getElem? hold) q hq

/-- A record stands when the next population does no better. -/
theorem Leads.append {b : Best} (h : b.Leads f past)
    (hle : ∀ p ∈ population, b.score.toInt ≤ (f p).toInt) :
    b.Leads f (past ++ [population]) := by
  obtain ⟨held, i, hheld, hi⟩ := h.foremost
  obtain ⟨hlength, -⟩ := List.getElem?_eq_some_iff.mp hheld
  refine ⟨h.score_eq, ⟨held, i, ?_, hi⟩, fun old hold p hp => ?_, fun g old hg hold p hp => ?_⟩
  · rw [List.getElem?_append_left hlength, hheld]
  · rcases List.mem_append.mp hold with hold | hold
    · exact h.le old hold p hp
    · obtain rfl := List.mem_singleton.mp hold
      exact hle p hp
  · rw [List.getElem?_append_left (Nat.lt_trans hg hlength)] at hold
    exact h.lt g old hg hold p hp

end Best

namespace Engine

variable {f : Program → Int32} {e next last : Engine} {stats : Stats}

/-! ## What a step says of the leader -/

theorem evaluate_total (e : Engine) :
    e.evaluate (.total f) = .ok (e.population.toList.map f) := by
  have h : e.population.toList.mapM (Fitness.total f) = .ok (e.population.toList.map f) := by
    rw [mapM_eq_ok, List.map_map]
    rfl
  rw [evaluate, h]
  rfl

theorem foremost_of_rank {leader : Placing} {others : List Placing} {p : Program}
    (hr : rank (e.population.toList.map f) = leader :: others)
    (hp : e.member leader.index = .ok p) :
    Foremost f e.population leader.index p ∧ leader.score = f p := by
  have hp := member_eq_ok_iff.mp hp
  obtain ⟨hs, hle⟩ := leader_of_rank hr
  have hget : ∀ (i : Nat) q, e.population[i]? = some q →
      (e.population.toList.map f)[i]? = some (f q) := by
    intro i q hq
    rw [List.getElem?_map, Array.getElem?_toList, hq]
    rfl
  have hscore : leader.score = f p := Option.some.inj (hs.symm.trans (hget _ _ hp))
  rw [hscore] at hle
  refine ⟨⟨hp, fun q hq => ?_, fun j q hj hq => (hle j _ (hget j q hq)).2 hj⟩, hscore⟩
  obtain ⟨i, hi⟩ := Array.getElem?_of_mem hq
  exact (hle i _ (hget i q hi)).1

theorem breed_leader {scores : List Int32} {leader : Placing} {others : List Placing}
    {p : Program} {s s' : Draw.Source} {population : List Program}
    (h : (e.breed scores (leader :: others)).run s = .ok (population, s'))
    (helite : 1 ≤ e.settings.eliteCount) (hp : e.member leader.index = .ok p) :
    population[0]? = some p := by
  obtain ⟨elites, children, fresh, s₁, hel, -, -, -, rfl⟩ := breed_cases h
  obtain ⟨n, hn⟩ := Nat.exists_eq_add_of_le' helite
  rw [hn, List.take_succ_cons, List.map_cons, hp] at hel
  cases elites with
  | nil => cases hel
  | cons q rest =>
    obtain rfl := Except.ok.inj (List.cons.inj hel).1
    rfl

/-- A step reports on the leader, records it if it is better, and keeps it in the first
place if there are elites. -/
theorem step_leader (h : e.step (.total f) = .ok (stats, next)) :
    ∃ i p, Foremost f e.population i p ∧ stats.best = f p ∧ stats.bestProgram = p.postfixText ∧
      stats.bestSize = p.size ∧ next.best = some (e.newBest p (f p)) ∧
      next.generation.toNat = e.generation.toNat + 1 ∧
      (1 ≤ e.settings.eliteCount → next.population[0]? = some p) := by
  obtain ⟨scores, leader, others, p, population, source, hs, hr, hp, rfl, hb, -, rfl⟩ :=
    step_cases h
  rw [evaluate_total] at hs
  obtain rfl := Except.ok.inj hs
  obtain ⟨hlead, hscore⟩ := foremost_of_rank hr hp
  refine ⟨leader.index, p, hlead, ?_, rfl, rfl, by rw [← hscore], (generation_step h).2,
    fun helite => ?_⟩
  · rw [hr]
    exact hscore
  · rw [hr] at hb
    have := breed_leader hb helite hp
    simpa using this

/-! ## The record -/

/-- The populations that the next `n` generations score, as far as the run goes. -/
def populations (fitness : Fitness) : Nat → Engine → List (Array Program)
  | 0, _ => []
  | n + 1, e => e.population ::
    match e.step fitness with
    | .ok (_, next) => next.populations fitness n
    | .error _ => []

theorem populations_succ {fitness : Fitness} {n : Nat} (h : e.step fitness = .ok (stats, next)) :
    e.populations fitness (n + 1) = e.population :: next.populations fitness n := by
  rw [populations, h]

theorem length_populations {fitness : Fitness} {n : Nat} {reports : List Stats}
    (h : e.steps fitness n = .ok (reports, last)) : (e.populations fitness n).length = n := by
  induction n generalizing e reports with
  | zero => rfl
  | succ n ih =>
    obtain ⟨stats, next, rest, h₁, h₂, -⟩ := steps_succ_cases h
    rw [populations_succ h₁, List.length_cons, ih h₂]

/-- They are those that runs of fewer steps end with. -/
theorem getElem?_populations {fitness : Fitness} {n g : Nat} {reports : List Stats}
    (h : e.steps fitness n = .ok (reports, last)) (hg : g < n) :
    ∃ early mid, e.steps fitness g = .ok (early, mid) ∧
      (e.populations fitness n)[g]? = some mid.population := by
  induction n generalizing e reports g with
  | zero => exact absurd hg (Nat.not_lt_zero g)
  | succ n ih =>
    obtain ⟨stats, next, rest, h₁, h₂, -⟩ := steps_succ_cases h
    rw [populations_succ h₁]
    cases g with
    | zero => exact ⟨[], e, rfl, rfl⟩
    | succ g =>
      obtain ⟨early, mid, hmid, hget⟩ := ih h₂ (Nat.lt_of_succ_lt_succ hg)
      exact ⟨stats :: early, mid, steps_succ_eq_ok h₁ hmid, hget⟩

/-- What one step keeps, of a run and the populations that it has scored, every number of
steps keeps. -/
theorem populations_invariant {fitness : Fitness} (inv : Engine → List (Array Program) → Prop)
    (hstep : ∀ {e next stats past}, inv e past → e.step fitness = .ok (stats, next) →
      inv next (past ++ [e.population]))
    {past : List (Array Program)} {n : Nat} {reports : List Stats} (he : inv e past)
    (h : e.steps fitness n = .ok (reports, last)) : inv last (past ++ e.populations fitness n) := by
  induction n generalizing e past reports with
  | zero =>
    obtain ⟨-, rfl⟩ := Prod.mk.inj (Except.ok.inj h)
    rw [populations, List.append_nil]
    exact he
  | succ n ih =>
    obtain ⟨stats, next, rest, h₁, h₂, -⟩ := steps_succ_cases h
    rw [populations_succ h₁, List.append_cons]
    exact ih (hstep he h₁) h₂

/-- The populations before this one are `past`, and the best program is their leader. -/
structure Recorded (e : Engine) (f : Program → Int32) (past : List (Array Program)) : Prop where
  generation_eq : e.generation.toNat = past.length
  leads : ∀ b, e.best = some b → b.Leads f past
  past_eq : e.best = none → past = []

namespace Recorded

variable {past : List (Array Program)}

theorem newBest (h : e.Recorded f past) {i : Nat} {p : Program} (hp : Foremost f e.population i p) :
    (e.newBest p (f p)).Leads f (past ++ [e.population]) := by
  unfold Engine.newBest
  cases hb : e.best with
  | none =>
    obtain rfl := h.past_eq hb
    exact Best.leads_of_lt h.generation_eq hp nofun
  | some b =>
    have hleads := h.leads b hb
    dsimp only
    split
    · next hlt =>
      exact Best.leads_of_lt h.generation_eq hp fun old hold q hq =>
        Int.lt_of_lt_of_le hlt (hleads.le old hold q hq)
    · next hle =>
      exact hleads.append fun q hq => Int.le_trans (Int.not_lt.mp hle) (hp.le q hq)

theorem step (h : e.Recorded f past) (hs : e.step (.total f) = .ok (stats, next)) :
    next.Recorded f (past ++ [e.population]) := by
  obtain ⟨i, p, hp, -, -, -, hbest, hgen, -⟩ := step_leader hs
  refine ⟨?_, fun b hb => ?_, fun hb => ?_⟩
  · rw [hgen, h.generation_eq, List.length_append, List.length_singleton]
  · obtain rfl := Option.some.inj (hbest.symm.trans hb)
    exact h.newBest hp
  · rw [hbest] at hb
    cases hb

theorem steps (h : e.Recorded f past) {n : Nat} {reports : List Stats}
    (hs : e.steps (.total f) n = .ok (reports, last)) :
    last.Recorded f (past ++ e.populations (.total f) n) :=
  populations_invariant (fun e past => e.Recorded f past) (fun h hs => h.step hs) h hs

end Recorded

theorem best_new {settings : EvolutionSettings} {build : PoolBuilder}
    (h : new settings build = .ok e) : e.best = none := by
  obtain ⟨generator, programs, source, -, -, rfl⟩ := new_cases h
  rfl

theorem recorded_new {settings : EvolutionSettings} {build : PoolBuilder}
    (h : new settings build = .ok e) : e.Recorded f [] := by
  obtain ⟨generator, programs, source, -, -, rfl⟩ := new_cases h
  exact ⟨rfl, nofun, fun _ => rfl⟩

theorem generation_of_steps {settings : EvolutionSettings} {build : PoolBuilder} {n : Nat}
    {first : Engine} {reports : List Stats} (hnew : new settings build = .ok first)
    (h : first.steps (.total f) n = .ok (reports, last)) : last.generation.toNat = n := by
  rw [generation_steps h, generation_new hnew]
  exact Nat.zero_add n

/-! ## With elites -/

/-- The program in the first place scores as the best program did. -/
def Kept (e : Engine) (f : Program → Int32) : Prop :=
  ∀ b, e.best = some b → ∃ p, e.population[0]? = some p ∧ b.score = f p

namespace Kept

/-- The leader does no worse than the program in the first place, so it does no worse than
the best program before, and its score is that of the best program now. -/
theorem score_newBest (h : e.Kept f) {i : Nat} {p : Program} (hp : Foremost f e.population i p) :
    (e.newBest p (f p)).score = f p ∧
      ∀ old, e.best = some old → (f p).toInt ≤ old.score.toInt := by
  unfold Engine.newBest
  cases hb : e.best with
  | none => exact ⟨rfl, nofun⟩
  | some b =>
    obtain ⟨q, hq, hscore⟩ := h b hb
    have hle : (f p).toInt ≤ b.score.toInt := hscore ▸ hp.le q (Array.mem_of_getElem? hq)
    refine ⟨?_, fun old hold => Option.some.inj hold ▸ hle⟩
    dsimp only
    split
    · rfl
    · next hlt =>
      exact Int32.toInt_inj.mp (Int.le_antisymm (Int.not_lt.mp hlt) hle)

theorem step (h : e.Kept f) (helite : 1 ≤ e.settings.eliteCount)
    (hs : e.step (.total f) = .ok (stats, next)) :
    next.Kept f ∧ next.best.map Best.score = some stats.best ∧
      ∀ old, e.best = some old → stats.best.toInt ≤ old.score.toInt := by
  obtain ⟨i, p, hp, hbest, -, -, hnext, -, hfirst⟩ := step_leader hs
  obtain ⟨hscore, hle⟩ := h.score_newBest hp
  refine ⟨fun b hb => ⟨p, hfirst helite, ?_⟩, ?_, hbest ▸ hle⟩
  · obtain rfl := Option.some.inj (hnext.symm.trans hb)
    exact hscore
  · rw [hnext, hbest, Option.map_some, hscore]

/-- No report is worse than the one before, and the last one is of the best program. -/
theorem steps (h : e.Kept f) (helite : 1 ≤ e.settings.eliteCount) {n : Nat} {reports : List Stats}
    (hs : e.steps (.total f) n = .ok (reports, last)) :
    (∀ old, e.best = some old → ∀ s ∈ reports, s.best.toInt ≤ old.score.toInt) ∧
      reports.Pairwise (fun s t => t.best.toInt ≤ s.best.toInt) ∧
      last.best.map Best.score = (reports.getLast?.map Stats.best).or (e.best.map Best.score) := by
  induction n generalizing e reports with
  | zero =>
    obtain ⟨rfl, rfl⟩ := Prod.mk.inj (Except.ok.inj hs)
    exact ⟨nofun, .nil, rfl⟩
  | succ n ih =>
    obtain ⟨stats, next, rest, h₁, h₂, rfl⟩ := steps_succ_cases hs
    obtain ⟨hnext, hscore, hold⟩ := h.step helite h₁
    obtain ⟨b, hb, hbs⟩ := Option.map_eq_some_iff.mp hscore
    obtain ⟨ihold, ihpair, ihlast⟩ := ih hnext ((settings_step h₁).symm ▸ helite) h₂
    have hrest : ∀ s ∈ rest, s.best.toInt ≤ stats.best.toInt := hbs ▸ ihold b hb
    refine ⟨fun old ho => ?_, List.pairwise_cons.mpr ⟨hrest, ihpair⟩, ?_⟩
    · have hle := hold old ho
      exact List.forall_mem_cons.mpr ⟨hle, fun s hs => Int.le_trans (hrest s hs) hle⟩
    · rw [ihlast, hscore, List.getLast?_cons]
      cases rest.getLast? with
      | none => rfl
      | some s => rfl

end Kept

/-- After each step the first place holds the program on which the step reports. -/
theorem first_of_steps (helite : 1 ≤ e.settings.eliteCount) {n g : Nat} {reports : List Stats}
    (h : e.steps (.total f) n = .ok (reports, last)) (hg : reports[g]? = some stats) :
    ∃ next p, e.steps (.total f) (g + 1) = .ok (reports.take (g + 1), next) ∧
      next.population[0]? = some p ∧ stats.bestProgram = p.postfixText ∧
      Program.parsePostfix Kind.all stats.bestProgram = .ok p ∧ stats.bestSize = p.size := by
  obtain ⟨before, after, hbefore, hstep, hafter⟩ := step_of_steps h hg
  obtain ⟨i, p, -, -, htext, hsize, -, -, hfirst⟩ := step_leader hstep
  have hp := hfirst ((settings_steps hbefore).symm ▸ helite)
  refine ⟨after, p, hafter, hp, htext, ?_, hsize⟩
  rw [htext]
  exact Program.parsePostfix_eq_ok.mpr ⟨rfl, fun k _ => k.mem_all⟩

/-- The best program of a run is the true best of its history, and elites never lose it.
After some generations the best program is the leader of all populations that were
scored, which are those that the run had after each number of steps. If there are elites,
no report is worse than the one before, the last one gives the score of the best program,
and after each step the first place holds the program of which the step reports text
and size. -/
theorem steps_record {settings : EvolutionSettings} {build : PoolBuilder} {n : Nat}
    {first : Engine} {reports : List Stats} (hnew : new settings build = .ok first)
    (hsteps : first.steps (.total f) n = .ok (reports, last)) (hn : 1 ≤ n) :
    (first.populations (.total f) n).length = n ∧ reports.length = n ∧
      (∀ g < n, ∃ early mid, first.steps (.total f) g = .ok (early, mid) ∧
        mid.generation.toNat = g ∧
        (first.populations (.total f) n)[g]? = some mid.population) ∧
      ∃ b, last.best = some b ∧ b.Leads f (first.populations (.total f) n) ∧
        (1 ≤ settings.eliteCount →
          reports.Pairwise (fun s t => t.best.toInt ≤ s.best.toInt) ∧
          reports.getLast?.map Stats.best = some b.score ∧
          ∀ g stats, reports[g]? = some stats →
            ∃ next p, first.steps (.total f) (g + 1) = .ok (reports.take (g + 1), next) ∧
              next.population[0]? = some p ∧ stats.bestProgram = p.postfixText ∧
              Program.parsePostfix Kind.all stats.bestProgram = .ok p ∧
              stats.bestSize = p.size) := by
  have hlength := length_populations hsteps
  have hrec := (recorded_new hnew).steps hsteps
  rw [List.nil_append] at hrec
  refine ⟨hlength, length_steps hsteps, fun g hg => ?_, ?_⟩
  · obtain ⟨early, mid, hmid, hget⟩ := getElem?_populations hsteps hg
    exact ⟨early, mid, hmid, generation_of_steps hnew hmid, hget⟩
  cases hb : last.best with
  | none =>
    rw [hrec.past_eq hb] at hlength
    exact absurd hlength.symm (Nat.ne_of_gt hn)
  | some b =>
    refine ⟨b, rfl, hrec.leads b hb, fun helite => ?_⟩
    rw [← (ready_new hnew).2] at helite
    have hbest := best_new hnew
    -- before the first step nothing is recorded, so nothing has to be kept
    have hkept : first.Kept f := by
      intro b hb
      rw [hbest] at hb
      cases hb
    obtain ⟨-, hpair, hlast⟩ := hkept.steps helite hsteps
    rw [hb, hbest] at hlast
    exact ⟨hpair, by simpa using hlast.symm, fun g stats hg => first_of_steps helite hsteps hg⟩

theorem steps_record_trio :
    ∃ first reports e b, new trio (.upTo 4) = .ok first ∧
      first.steps (.total levelCount) 1 = .ok (reports, e) ∧ 1 ≤ trio.eliteCount ∧
      e.best = some b ∧ b.Leads levelCount (first.populations (.total levelCount) 1) ∧
      reports.getLast?.map Stats.best = some b.score ∧
      ∀ g stats, reports[g]? = some stats →
        ∃ next p, first.steps (.total levelCount) (g + 1) = .ok (reports.take (g + 1), next) ∧
          next.population[0]? = some p ∧ stats.bestProgram = p.postfixText ∧
          Program.parsePostfix Kind.all stats.bestProgram = .ok p ∧ stats.bestSize = p.size := by
  obtain ⟨⟨reports, e⟩, he⟩ := exists_of_isOk isOk_trio
  obtain ⟨first, hnew, hsteps⟩ := bind_eq_ok.mp he
  have helite : 1 ≤ trio.eliteCount := by decide
  obtain ⟨-, -, -, b, hb, hleads, h⟩ := steps_record hnew hsteps (by decide)
  obtain ⟨-, hlast, hkept⟩ := h helite
  exact ⟨first, reports, e, b, hnew, hsteps, helite, hb, hleads, hlast, hkept⟩

end Engine
end AntTrail
