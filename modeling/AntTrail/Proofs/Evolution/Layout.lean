import AntTrail.Proofs.Evolution.Population
import AntTrail.Proofs.Evolution.Progress

/-!
# The slots of the next population

Which program stands in which slot of a population that has been bred, and in which order
the draws are made that decide it (`Layout`): the elites by rank, then the children of one
pair of tournaments after the other up to the breed target, then what the generator makes of
the source that the last crossover leaves. The children are bred for a number of slots that
is known beforehand; a loop that goes on until the target is reached, and that may be
beyond it from the beginning, breeds the same (`fill_eq`).
-/
namespace AntTrail

/-! ## Refilling -/

/-- No chunk begins where no program is wanted any more. -/
theorem Generator.chunk_start_lt {count k : Nat} (hk : k < chunkCount count) :
    k * chunkSize < count := by
  unfold chunkCount chunkSize at *
  omega

namespace Engine

variable {e next : Engine} {fitness : Fitness} {stats : Stats}

/-! ## The loop -/

/-- Breeding as a loop: one pair of children after the other, for as long as the target is
not reached. The second child is kept if there is still room for it. -/
def fill (e : Engine) (scores : Array Int32) (target : Nat) (next : List Program) :
    Breeding (List Program) :=
  if next.length < target then do
    let (a, b) ← e.pair scores
    let pushed := next ++ [a]
    e.fill scores target (if pushed.length < target then pushed ++ [b] else pushed)
  else return next
termination_by target - next.length
decreasing_by
  split <;> simp <;> omega

/-- The next population, with the loop for the children. -/
def breedLoop (e : Engine) (scores : List Int32) (ranked : List Placing) :
    Breeding (List Program) := do
  let elites ← (ranked.take e.settings.eliteCount).mapM fun r => e.member r.index
  let next ← e.fill scores.toArray e.settings.breedTarget elites
  if e.settings.populationSize < next.length then throw (.fault .subOverflow)
  let fresh ← drawing (e.generator.refill (e.settings.populationSize - next.length))
  return next ++ fresh

theorem fill_of_le {scores : Array Int32} {target : Nat} {next : List Program}
    (h : target ≤ next.length) : e.fill scores target next = pure next := by
  rw [fill, if_neg (Nat.not_lt.mpr h)]

/-- The loop breeds children for as many slots as are missing when it begins. -/
theorem fill_eq (e : Engine) (scores : Array Int32) (target : Nat) (next : List Program) :
    e.fill scores target next =
      (next ++ ·) <$> e.offspring scores (target - next.length) := by
  induction hn : target - next.length using offspring.induct generalizing next with
  | case1 => rw [fill_of_le (by omega), offspring, map_pure, List.append_nil]
  | case2 =>
    rw [fill, if_pos (by omega), offspring, map_bind]
    refine bind_congr fun c => ?_
    dsimp only
    have hfull : ¬(next ++ [c.1]).length < target := by
      rw [List.length_append, List.length_singleton]
      omega
    rw [if_neg hfull, fill_of_le (Nat.not_lt.mp hfull), map_pure]
  | case3 n ih =>
    rw [fill, if_pos (by omega), offspring, map_bind]
    refine bind_congr fun c => ?_
    dsimp only
    have hroom : (next ++ [c.1]).length < target := by
      rw [List.length_append, List.length_singleton]
      omega
    rw [if_pos hroom, ih _ (by simp; omega), map_bind]
    simp

theorem breed_eq_breedLoop (e : Engine) (scores : List Int32) (ranked : List Placing) :
    e.breed scores ranked = e.breedLoop scores ranked := by
  simp only [breed, breedLoop, fill_eq, bind_map_left, List.length_append]

/-! ## Pairs -/

/-- Two children, and the draws that they take: a tournament for the first parent, one for
the second, and then the crossover. -/
inductive Mates (e : Engine) (scores : Array Int32) (s : Draw.Source)
    (children : Program × Program) (s' : Draw.Source) : Prop
  | intro {i j : Nat} {p q : Program} {s₁ s₂ : Draw.Source}
    (first : (tournament scores e.settings.tournamentSize).run s = .ok (some i, s₁))
    (second : (tournament scores e.settings.tournamentSize).run s₁ = .ok (some j, s₂))
    (hp : e.population[i]? = some p) (hq : e.population[j]? = some q)
    (crossed : (p.crossover q).run s₂ = .ok (children, s'))

/-- The children of several pairs, each bred from the source that the last one leaves. -/
inductive Breeds (e : Engine) (scores : Array Int32) :
    Draw.Source → List (Program × Program) → Draw.Source → Prop
  | nil {s : Draw.Source} : Breeds e scores s [] s
  | cons {s s₁ s' : Draw.Source} {c : Program × Program} {cs : List (Program × Program)}
    (h : e.Mates scores s c s₁) (hrest : Breeds e scores s₁ cs s') : Breeds e scores s (c :: cs) s'

theorem parent_cases {scores : Array Int32} {s s' : Draw.Source} {p : Program}
    (h : (e.parent scores).run s = .ok (p, s')) :
    ∃ i, (tournament scores e.settings.tournamentSize).run s = .ok (some i, s') ∧
      e.population[i]? = some p := by
  obtain ⟨winner, s₁, ht, h⟩ := run_bind_eq_ok.mp h
  cases winner with
  | none => exact absurd h run_throw_ne_ok
  | some i =>
    obtain ⟨hp, rfl⟩ := run_lift_eq_ok.mp h
    exact ⟨i, mapError_eq_ok.mp ht, member_eq_ok_iff.mp hp⟩

theorem mates_of_pair {scores : Array Int32} {s s' : Draw.Source} {c : Program × Program}
    (h : (e.pair scores).run s = .ok (c, s')) : e.Mates scores s c s' := by
  obtain ⟨p, s₁, hp, h⟩ := run_bind_eq_ok.mp h
  obtain ⟨q, s₂, hq, h⟩ := run_bind_eq_ok.mp h
  obtain ⟨i, hi, hip⟩ := parent_cases hp
  obtain ⟨j, hj, hjq⟩ := parent_cases hq
  exact ⟨hi, hj, hip, hjq, mapError_eq_ok.mp h⟩

/-- Where the children of the pairs stand among the offspring. -/
theorem offspring_cases {scores : Array Int32} {n : Nat} {s s' : Draw.Source}
    {children : List Program} (h : (e.offspring scores n).run s = .ok (children, s')) :
    ∃ pairs, e.Breeds scores s pairs s' ∧ pairs.length = (n + 1) / 2 ∧
      ∀ k c, pairs[k]? = some c →
        children[2 * k]? = some c.1 ∧ (2 * k + 1 < n → children[2 * k + 1]? = some c.2) := by
  induction n using offspring.induct generalizing s children with
  | case1 =>
    obtain ⟨rfl, rfl⟩ := run_pure_eq_ok.mp h
    refine ⟨[], .nil, rfl, fun k c hk => ?_⟩
    cases hk
  | case2 =>
    obtain ⟨c, s₁, hc, h⟩ := run_bind_eq_ok.mp h
    obtain ⟨rfl, rfl⟩ := run_pure_eq_ok.mp h
    refine ⟨[c], .cons (mates_of_pair hc) .nil, rfl, fun k c' hk => ?_⟩
    cases k with
    | zero =>
      obtain rfl := Option.some.inj hk
      exact ⟨rfl, fun hlt => absurd hlt (by decide)⟩
    | succ k => cases hk
  | case3 n ih =>
    obtain ⟨c, s₁, hc, h⟩ := run_bind_eq_ok.mp h
    obtain ⟨rest, s₂, hrest, h⟩ := run_bind_eq_ok.mp h
    obtain ⟨rfl, rfl⟩ := run_pure_eq_ok.mp h
    obtain ⟨pairs, hpairs, hlength, hslots⟩ := ih hrest
    refine ⟨c :: pairs, .cons (mates_of_pair hc) hpairs, by rw [List.length_cons]; omega,
      fun k c' hk => ?_⟩
    cases k with
    | zero =>
      obtain rfl := Option.some.inj hk
      exact ⟨rfl, fun _ => rfl⟩
    | succ k =>
      -- two slots later in the whole than in the rest
      obtain ⟨hfirst, hsecond⟩ := hslots k c' hk
      exact ⟨hfirst, fun hlt => hsecond (by omega)⟩

/-! ## Slots -/

/-- The slots of a population that is bred from scores, and the draws that fill them, from
a source `s` to a source `s'`. -/
structure Layout (e : Engine) (scores : List Int32) (s : Draw.Source)
    (population : List Program) (s' : Draw.Source) : Prop where
  length_eq : population.length = e.settings.populationSize
  eliteCount_le : e.settings.eliteCount ≤ e.settings.populationSize
  breedTarget_le : e.settings.breedTarget ≤ e.settings.populationSize
  elite : ∀ i < e.settings.eliteCount, ∃ r p,
    Ranked scores i r ∧ e.population[r.index]? = some p ∧ population[i]? = some p
  bred : ∃ pairs s₁, e.Breeds scores.toArray s pairs s₁ ∧
    pairs.length = (e.settings.breedTarget - e.settings.eliteCount + 1) / 2 ∧
    (∀ k c, pairs[k]? = some c →
      population[e.settings.eliteCount + 2 * k]? = some c.1 ∧
      (e.settings.eliteCount + 2 * k + 1 < e.settings.breedTarget →
        population[e.settings.eliteCount + 2 * k + 1]? = some c.2)) ∧
    (e.generator.refill
        (e.settings.populationSize - max e.settings.eliteCount e.settings.breedTarget)).run s₁ =
      .ok (population.drop (max e.settings.eliteCount e.settings.breedTarget), s')

/-- The elites are the programs of the first ranks. -/
theorem elites_cases {scores : List Int32} {count : Nat} {elites : List Program}
    (h : ((rank scores).take count).map (fun r => e.member r.index) = elites.map .ok)
    (hcount : count ≤ scores.length) :
    elites.length = count ∧ ∀ i < count, ∃ r p,
      Ranked scores i r ∧ e.population[r.index]? = some p ∧ elites[i]? = some p := by
  have hlength := congrArg List.length h
  rw [List.length_map, List.length_map, List.length_take, length_rank,
    Nat.min_eq_left hcount] at hlength
  refine ⟨hlength.symm, fun i hi => ?_⟩
  have hr : i < (rank scores).length := by
    rw [length_rank]
    omega
  have hp : i < elites.length := by omega
  have hslot := congrArg (·[i]?) h
  simp only [List.getElem?_map, List.getElem?_take_of_lt hi, List.getElem?_eq_getElem hr,
    List.getElem?_eq_getElem hp, Option.map_some, Option.some.injEq] at hslot
  exact ⟨_, _, ranked_of_rank (List.getElem?_eq_getElem hr), member_eq_ok_iff.mp hslot,
    List.getElem?_eq_getElem hp⟩

theorem Ready.layout_of_breed (he : e.Ready) {scores : List Int32}
    (hs : scores.length = e.settings.populationSize) {s s' : Draw.Source}
    {population : List Program} (h : (e.breed scores (rank scores)).run s = .ok (population, s')) :
    e.Layout scores s population s' := by
  have hlength := ensures_breed _ _ _ _ _ _ h
  have hkept : e.settings.eliteCount ≤ e.settings.populationSize := he.size_eq ▸ he.eliteCount_le
  have htarget := e.settings.breedTarget_le
  obtain ⟨elites, children, fresh, s₁, hel, hc, -, hf, rfl⟩ := breed_cases h
  obtain ⟨hcount, helite⟩ := elites_cases hel (hs ▸ hkept)
  have hchildren := ensures_length_offspring _ _ _ _ _ _ hc
  rw [hcount] at hc hchildren
  obtain ⟨pairs, hbreeds, hpairs, hslots⟩ := offspring_cases hc
  -- what elites and children fill together ends at the later of their bounds
  have hfilled : (elites ++ children).length =
      max e.settings.eliteCount e.settings.breedTarget := by
    rw [List.length_append, hcount, hchildren]
    omega
  rw [← List.length_append, hfilled] at hf
  have hchild : ∀ k c, children[k]? = some c →
      (elites ++ children ++ fresh)[e.settings.eliteCount + k]? = some c := by
    intro k c hk
    obtain ⟨hlt, -⟩ := List.getElem?_eq_some_iff.mp hk
    rw [List.append_assoc, ← hcount, List.getElem?_append_right (Nat.le_add_right ..),
      Nat.add_sub_cancel_left, List.getElem?_append_left hlt, hk]
  refine ⟨hlength, hkept, htarget, fun i hi => ?_, pairs, s₁, hbreeds, hpairs, ?_, ?_⟩
  · obtain ⟨r, p, hr, hp, hslot⟩ := helite i hi
    refine ⟨r, p, hr, hp, ?_⟩
    rw [List.append_assoc, List.getElem?_append_left (hcount ▸ hi), hslot]
  · intro k c hk
    obtain ⟨hfirst, hsecond⟩ := hslots k c hk
    exact ⟨hchild _ _ hfirst, fun hlt => hchild _ _ (hsecond (by omega))⟩
  · rwa [← hfilled, List.drop_left, hfilled]

theorem Ready.step_ne_subOverflow (he : e.Ready) :
    e.step fitness ≠ .error (.fault .subOverflow) := by
  intro h
  rcases he.step_error_cases h with hev | ⟨-, hb | ⟨hover, -⟩⟩
  · obtain ⟨_, -, _, -, hf⟩ := evaluate_error_cases hev
    cases hf
  · cases hb
  · cases hover

/-- The slots of the next generation. Under accepted settings, and with as many programs as
they demand, whatever the scores and the source, what is bred has the layout. Never are more
slots filled than there are, be the breed target below the number of elites or above it, and
no chunk of the refill begins where none is missing. A loop up to the breed target breeds the
same. The population after a step is bred from the scores of its fitness and from the source
of the run. -/
theorem breed_layout (he : e.Ready) :
    (∀ scores : List Int32, scores.length = e.settings.populationSize → ∀ s : Draw.Source,
      e.breed scores (rank scores) = e.breedLoop scores (rank scores) ∧
        (e.breed scores (rank scores)).run s ≠ .error (.fault .subOverflow) ∧
        ∀ population s', (e.breed scores (rank scores)).run s = .ok (population, s') →
          e.Layout scores s population s') ∧
      (∀ count, ∀ k < Generator.chunkCount count, k * Generator.chunkSize < count) ∧
      ∀ fitness, e.step fitness ≠ .error (.fault .subOverflow) ∧
        ∀ stats next, e.step fitness = .ok (stats, next) →
          ∃ scores, e.evaluate fitness = .ok scores ∧
            e.Layout scores e.source next.population.toList next.source := by
  refine ⟨fun scores hs s => ⟨breed_eq_breedLoop e scores _, ?_, fun population s' h =>
    he.layout_of_breed hs h⟩, fun count k hk => Generator.chunk_start_lt hk,
    fun fitness => ⟨he.step_ne_subOverflow, fun stats next h => ?_⟩⟩
  · intro h
    cases he.failsOnly_breed (he.size_eq ▸ hs) _ _ h
  · obtain ⟨scores, leader, others, program, population, source, hscores, -, -, -, hb, -, rfl⟩ :=
      step_cases h
    exact ⟨scores, hscores, he.layout_of_breed ((length_evaluate hscores).trans he.size_eq) hb⟩

/-- Three programs: the best one stays, and whatever is not bred is made anew. -/
theorem breed_layout_trio :
    ∃ first stats next scores, new trio (.upTo 4) = .ok first ∧ first.Ready ∧
      first.step (.total levelCount) = .ok (stats, next) ∧
      first.Layout scores first.source next.population.toList next.source ∧
      ∃ r p, Ranked scores 0 r ∧ first.population[r.index]? = some p ∧
        next.population[0]? = some p := by
  obtain ⟨⟨reports, last⟩, h⟩ := exists_of_isOk isOk_trio
  obtain ⟨first, hnew, hsteps⟩ := bind_eq_ok.mp h
  obtain ⟨stats, next, rest, hstep, -, -⟩ := steps_succ_cases hsteps
  obtain ⟨hready, hset⟩ := ready_new hnew
  obtain ⟨scores, -, hlayout⟩ := ((breed_layout hready).2.2 _).2 _ _ hstep
  obtain ⟨r, p, hr, hp, hslot⟩ := hlayout.elite 0 (by rw [hset]; decide)
  exact ⟨first, stats, next, scores, hnew, hready, hstep, hlayout, r, p, hr, hp,
    by rwa [Array.getElem?_toList] at hslot⟩

end Engine
end AntTrail
