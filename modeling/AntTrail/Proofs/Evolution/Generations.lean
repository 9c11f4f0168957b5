import AntTrail.Proofs.Evolution.Atomic

/-!
# Runs of many generations

A run steps as long as there are generations left (`run_of_lt`, `run_of_le`), and each
step takes one of them away, so the number of generations left bounds it. What it reports
are the results of successive steps, and it ends in one of three ways: no generation is
left, a perfect program is reported and the settings say to stop, or a step fails
(`Run.Accounts`, `accounts_run`). Going on from the middle gives the rest of the same run
(`run_of_steps`).
-/
namespace AntTrail.Engine

variable {fitness : Fitness} {e next : Engine} {stats : Stats}

/-! ## The loop -/

/-- The number of generations that are left to a run. -/
def left (e : Engine) : Nat := e.settings.generations.toNat - e.generation.toNat

theorem left_step (h : e.step fitness = .ok (stats, next)) : next.left = e.left - 1 := by
  rw [left, left, settings_step h, (generation_step h).2]
  omega

theorem run_of_le (h : e.settings.generations ≤ e.generation) :
    e.run fitness = ⟨e, [], .ok false⟩ := by
  rw [run, Nat.sub_eq_zero_of_le (UInt64.le_iff_toNat_le.mp h), runFor]

theorem run_of_lt (h : e.generation < e.settings.generations) :
    e.run fitness = match e.step fitness with
      | .error f => ⟨e, [], .error f⟩
      | .ok (stats, next) =>
        if e.settings.stopOnPerfect && stats.best = 0 then ⟨next, [stats], .ok true⟩
        else { next.run fitness with reports := stats :: (next.run fitness).reports } := by
  have hlt := UInt64.lt_iff_toNat_lt.mp h
  obtain ⟨n, hn⟩ : ∃ n, e.settings.generations.toNat - e.generation.toNat = n + 1 :=
    ⟨_, (Nat.succ_pred_eq_of_pos (Nat.sub_pos_of_lt hlt)).symm⟩
  rw [run, hn, runFor]
  cases hs : e.step fitness with
  | error f => rfl
  | ok p =>
    obtain ⟨stats, next⟩ := p
    have hnext : next.settings.generations.toNat - next.generation.toNat = n := by
      have := left_step hs
      rw [left, left, hn] at this
      exact this
    dsimp only
    rw [run, hnext, settings_step hs]

theorem generation_lt_iff : e.generation < e.settings.generations ↔ 0 < e.left := by
  rw [UInt64.lt_iff_toNat_lt, left]
  omega

/-- With no generation left there is nothing to do. -/
theorem run_of_left_eq_zero (h : e.left = 0) : e.run fitness = ⟨e, [], .ok false⟩ := by
  have hle : ¬ e.generation < e.settings.generations := by
    rw [generation_lt_iff]
    omega
  exact run_of_le (UInt64.not_lt.mp hle)

/-- What is left of a run after its first steps is the run of the engine that they lead
to, unless one of them has ended it. -/
theorem run_of_steps {j : Nat} {reports : List Stats} {mid : Engine}
    (h : e.steps fitness j = .ok (reports, mid)) (hj : j ≤ e.left)
    (hgo : e.settings.stopOnPerfect = true → ∀ stats ∈ reports, stats.best ≠ 0) :
    e.run fitness = { mid.run fitness with reports := reports ++ (mid.run fitness).reports } := by
  induction j generalizing e reports with
  | zero =>
    obtain ⟨rfl, rfl⟩ := Prod.mk.inj (Except.ok.inj h)
    rfl
  | succ j ih =>
    obtain ⟨stats, next, rest, h₁, h₂, rfl⟩ := steps_succ_cases h
    have hnext : j ≤ next.left := by
      rw [left_step h₁]
      omega
    have hrest : next.settings.stopOnPerfect = true → ∀ stats ∈ rest, stats.best ≠ 0 :=
      fun hstop stats hm => hgo (settings_step h₁ ▸ hstop) stats (List.mem_cons_of_mem _ hm)
    have hon : (e.settings.stopOnPerfect && stats.best = 0) = false := by
      by_cases hstop : e.settings.stopOnPerfect
      · have := hgo hstop stats List.mem_cons_self
        simp [this]
      · simp [hstop]
    rw [run_of_lt (generation_lt_iff.mpr (by omega)), h₁]
    simp only [hon, ih h₂ hnext hrest]
    rfl

/-! ## What a run comes to -/

/-- How a run accounts for its generations: what it reports are the results of so many
successive steps, and it stands where they lead; if it is to stop at a perfect program,
none but the last report is of one; it has stopped early if it was to stop and the last
report is of one, and otherwise used up its generations; and where it fails, the next
step fails in the same way. -/
structure Run.Accounts (r : Run) (fitness : Fitness) (e : Engine) : Prop where
  steps_eq : e.steps fitness r.reports.length = .ok (r.reports, r.engine)
  length_le : r.reports.length ≤ e.left
  imperfect : e.settings.stopOnPerfect = true → ∀ stats ∈ r.reports.dropLast, stats.best ≠ 0
  ending_ok : ∀ early, r.ending = .ok early →
    (early = true ↔ e.settings.stopOnPerfect = true ∧
      ∃ stats, r.reports.getLast? = some stats ∧ stats.best = 0) ∧
    (early = false → r.reports.length = e.left)
  ending_error : ∀ f, r.ending = .error f →
    r.engine.step fitness = .error f ∧ r.reports.length < e.left

namespace Run.Accounts

/-- Nothing to do. -/
theorem idle (h : e.left = 0) : Run.Accounts ⟨e, [], .ok false⟩ fitness e where
  steps_eq := rfl
  length_le := Nat.zero_le _
  imperfect := nofun
  ending_ok := by
    rintro _ ⟨⟩
    simp [h]
  ending_error := nofun

theorem failed {f : Failure EvolutionError} (hleft : 0 < e.left) (h : e.step fitness = .error f) :
    Run.Accounts ⟨e, [], .error f⟩ fitness e where
  steps_eq := rfl
  length_le := Nat.zero_le _
  imperfect := nofun
  ending_ok := nofun
  ending_error := by
    rintro _ ⟨⟩
    exact ⟨h, hleft⟩

theorem stopped (hleft : 0 < e.left) (h : e.step fitness = .ok (stats, next))
    (hstop : e.settings.stopOnPerfect = true) (hbest : stats.best = 0) :
    Run.Accounts ⟨next, [stats], .ok true⟩ fitness e where
  steps_eq := steps_succ_eq_ok h rfl
  length_le := hleft
  imperfect := nofun
  ending_ok := by
    rintro _ ⟨⟩
    simp [hstop, hbest]
  ending_error := nofun

/-- One more generation at the front, which did not end the run. -/
theorem cons {r : Run} (hr : r.Accounts fitness next) (hleft : 0 < e.left)
    (h : e.step fitness = .ok (stats, next))
    (hon : e.settings.stopOnPerfect = true → stats.best ≠ 0) :
    Run.Accounts { r with reports := stats :: r.reports } fitness e where
  steps_eq := steps_succ_eq_ok h hr.steps_eq
  length_le := by
    have := hr.length_le
    rw [left_step h] at this
    show r.reports.length + 1 ≤ _
    omega
  imperfect := by
    intro hstop stats' hm
    have hrest := hr.imperfect (settings_step h ▸ hstop)
    dsimp only at hm
    cases hreports : r.reports with
    | nil =>
      rw [hreports] at hm
      cases hm
    | cons first rest =>
      rw [hreports, List.dropLast_cons_cons] at hm
      rcases List.mem_cons.mp hm with rfl | hm
      · exact hon hstop
      · exact hrest stats' (hreports ▸ hm)
  ending_ok := by
    intro early hearly
    obtain ⟨hiff, hall⟩ := hr.ending_ok early hearly
    rw [settings_step h] at hiff
    rw [left_step h] at hall
    constructor
    · refine hiff.trans (and_congr_right fun hstop => ?_)
      rw [List.getLast?_cons]
      cases r.reports.getLast? with
      | none => simpa using hon hstop
      | some last => simp
    · intro hf
      have := hall hf
      show r.reports.length + 1 = _
      omega
  ending_error := by
    intro f hf
    obtain ⟨hs, hlt⟩ := hr.ending_error f hf
    rw [left_step h] at hlt
    refine ⟨hs, ?_⟩
    show r.reports.length + 1 < _
    omega

end Run.Accounts

theorem accounts_run (fitness : Fitness) (e : Engine) : (e.run fitness).Accounts fitness e := by
  induction hn : e.left generalizing e with
  | zero =>
    have h : ¬ e.generation < e.settings.generations := by
      rw [generation_lt_iff]
      omega
    rw [run_of_le (UInt64.not_lt.mp h)]
    exact .idle hn
  | succ n ih =>
    have hleft : 0 < e.left := by omega
    rw [run_of_lt (generation_lt_iff.mpr hleft)]
    cases hs : e.step fitness with
    | error f => exact .failed hleft hs
    | ok p =>
      obtain ⟨stats, next⟩ := p
      dsimp only
      split
      · next hstop =>
        obtain ⟨hstop, hbest⟩ := Bool.and_eq_true_iff.mp hstop
        exact .stopped hleft hs hstop (of_decide_eq_true hbest)
      · next hgo =>
        have hrest := ih next (by rw [left_step hs, hn, Nat.add_sub_cancel])
        refine hrest.cons hleft hs fun hstop hbest => hgo ?_
        simp [hstop, hbest]

theorem Reached.steps (he : e.Reached) {n : Nat} {reports : List Stats} {last : Engine}
    (h : e.steps fitness n = .ok (reports, last)) : last.Reached :=
  steps_invariant Reached (fun {e _ _} he hs => he.succeeded (attempt_of_step_ok hs e.source)) he h

theorem Reached.run (he : e.Reached) : (e.run fitness).engine.Reached :=
  he.steps (accounts_run fitness e).steps_eq

/-- A run that comes to a program whose scoring breaks off ends there, with that error. -/
theorem run_of_broken {j : Nat} {reports : List Stats} {mid : Engine} {p : Program} {b : Breakdown}
    (h : e.steps fitness j = .ok (reports, mid)) (hj : j < e.left)
    (hgo : e.settings.stopOnPerfect = true → ∀ stats ∈ reports, stats.best ≠ 0)
    (hp : p ∈ mid.population) (hb : fitness p = .error b) :
    ∃ err, e.run fitness = ⟨mid, reports, .error (.error err)⟩ := by
  have hleft : 0 < mid.left := by
    rw [left, settings_steps h, generation_steps h]
    unfold left at hj
    omega
  obtain ⟨err, hattempt⟩ := attempt_of_broken hp hb mid.source
  refine ⟨err, ?_⟩
  rcases attempt_eq fitness mid.source mid with ⟨f, hs, hf⟩ | ⟨_, _, -, ha⟩
  · rw [hattempt] at hf
    rw [run_of_steps h (Nat.le_of_lt hj) hgo, run_of_lt (generation_lt_iff.mpr hleft), hs,
      ← Except.error.inj hf, List.append_nil]
  · rw [hattempt] at ha
    cases ha

/-- If draws end and the candidates of tournaments fit into lists, a run comes to its end
or to a program whose scoring breaks off. -/
theorem Reached.ending_cases (he : e.Reached)
    (hends : (e.run fitness).ending ≠ .error (.fault .endlessDraw))
    (hfits : e.settings.tournamentSize ≤ maxCandidates ∨
      e.settings.breedTarget ≤ e.settings.eliteCount) :
    (∃ early, (e.run fitness).ending = .ok early) ∨
      ∃ p ∈ (e.run fitness).engine.population, ∃ b, fitness p = .error b ∧
        (e.run fitness).ending = .error (.error (.brokeOff b)) ∧
        ∀ astray, (e.run fitness).engine.attempt fitness astray =
          (.error (.error (.brokeOff b)), (e.run fitness).engine) := by
  have hacc := accounts_run fitness e
  cases hending : (e.run fitness).ending with
  | ok early => exact .inl ⟨early, rfl⟩
  | error f =>
    obtain ⟨hstep, hlt⟩ := hacc.ending_error f hending
    -- a generation that is left has a successor
    have hlast : (e.run fitness).engine.generation.toNat + 1 < UInt64.size := by
      have := e.settings.generations.toNat_lt_size
      rw [generation_steps hacc.steps_eq]
      unfold left at hlt
      omega
    rw [← settings_steps hacc.steps_eq] at hfits
    have hne : f ≠ .fault .endlessDraw := by
      rintro rfl
      exact hends hending
    have hev := he.run.ready.evaluate_of_step_error hlast hfits hstep hne
    obtain ⟨p, hp, b, hb, rfl⟩ := evaluate_error_cases hev
    exact .inr ⟨p, hp, b, hb, rfl, attempt_of_evaluate_error hev⟩

/-- Where a tournament is to be held with more candidates than a list can hold, the run
ends with the first population that can be scored, before a generation has succeeded. -/
theorem Ready.run_of_crowded (he : e.Ready) (hleft : 0 < e.left) {scores : List Int32}
    (hscores : e.evaluate fitness = .ok scores)
    (hheld : e.settings.eliteCount < e.settings.breedTarget)
    (hsize : maxCandidates < e.settings.tournamentSize) :
    e.run fitness = ⟨e, [], .error (.fault .capacityOverflow)⟩ := by
  rw [run_of_lt (generation_lt_iff.mpr hleft), he.step_crowded hscores hheld hsize]

/-- A run accounts for every generation exactly once. From any run there can be, and with
any number of generations set, it reports the results of successive steps, numbered one
after the other from the generation at which it begins and at most as many as are left,
and ends at the generation after the last of them. If its draws end and the candidates of
its tournaments fit into lists, it either comes to its end, having stopped early exactly
if it was to and the last report is of a perfect program, and otherwise with no generation
left; or the scoring of a program broke off in the generation after the last report, and
the run ends in that error and stands where it stood before that generation. The latter
happens whenever it comes to a population with such a program. If the candidates do not
fit, the run ends in its first generation, without a report: in place, the record has been
kept and the source drawn from, and the generation is as it was. -/
theorem run_accounts (fitness : Fitness) (he : e.Reached) :
    (e.run fitness).Accounts fitness e ∧
    (∀ i stats, (e.run fitness).reports[i]? = some stats →
      stats.generation.toNat = e.generation.toNat + i) ∧
    (e.run fitness).engine.generation.toNat =
      e.generation.toNat + (e.run fitness).reports.length ∧
    ((e.run fitness).engine.generation - e.generation).toNat = (e.run fitness).reports.length ∧
    ((e.run fitness).ending ≠ .error (.fault .endlessDraw) →
      e.settings.tournamentSize ≤ maxCandidates ∨ e.settings.breedTarget ≤ e.settings.eliteCount →
      (∃ early, (e.run fitness).ending = .ok early) ∨
      ∃ p ∈ (e.run fitness).engine.population, ∃ b, fitness p = .error b ∧
        (e.run fitness).ending = .error (.error (.brokeOff b)) ∧
        ∀ astray, (e.run fitness).engine.attempt fitness astray =
          (.error (.error (.brokeOff b)), (e.run fitness).engine)) ∧
    (∀ j reports mid p b, e.steps fitness j = .ok (reports, mid) → j < e.left →
      (e.settings.stopOnPerfect = true → ∀ stats ∈ reports, stats.best ≠ 0) →
      p ∈ mid.population → fitness p = .error b →
      ∃ err, e.run fitness = ⟨mid, reports, .error (.error err)⟩) ∧
    (0 < e.left → (∀ p ∈ e.population, ∃ score, fitness p = .ok score) →
      e.settings.eliteCount < e.settings.breedTarget →
      maxCandidates < e.settings.tournamentSize →
      (e.run fitness).reports = [] ∧
      (e.run fitness).ending = .error (.fault .capacityOverflow) ∧
      ∃ p ∈ e.population, ∃ score, fitness p = .ok score ∧
        ∀ astray, e.attempt fitness astray = (.error (.fault .capacityOverflow),
          { e with source := astray, best := some (e.newBest p score) })) := by
  have hacc := accounts_run fitness e
  have hgen := generation_steps hacc.steps_eq
  refine ⟨hacc, ?_, hgen, ?_, ?_, ?_, ?_⟩
  · intro i stats hi
    exact generation_report hacc.steps_eq hi
  · have hle : e.generation ≤ (e.run fitness).engine.generation :=
      UInt64.le_iff_toNat_le.mpr (by omega)
    rw [UInt64.toNat_sub_of_le _ _ hle, hgen, Nat.add_sub_cancel_left]
  · intro hends hfits
    exact he.ending_cases hends hfits
  · intro j reports mid p b hsteps hj hgo hp hb
    exact run_of_broken hsteps hj hgo hp hb
  · intro hleft hall hheld hsize
    obtain ⟨scores, hscores⟩ := exists_evaluate hall
    rw [he.ready.run_of_crowded hleft hscores hheld hsize]
    exact ⟨rfl, rfl, he.ready.attempt_of_crowded hscores hheld hsize⟩

/-- A run of one generation. -/
def brief : EvolutionSettings := { trio with generations := 1 }

theorem isOk_brief : (new brief (.upTo 4) >>= Engine.step (.total levelCount)).isOk := by
  simp only [new, step, bind_assoc, pure_bind, breed, rank_eq_insertionSort]
  decide +kernel

theorem run_accounts_brief :
    ∃ first, new brief (.upTo 4) = .ok first ∧
      (first.run (.total levelCount)).Accounts (.total levelCount) first ∧
      (∃ early, (first.run (.total levelCount)).ending = .ok early) ∧
      (first.run (.total levelCount)).engine.generation.toNat =
        first.generation.toNat + (first.run (.total levelCount)).reports.length := by
  obtain ⟨⟨stats, next⟩, h⟩ := exists_of_isOk isOk_brief
  obtain ⟨first, hnew, hstep⟩ := bind_eq_ok.mp h
  have hset := (ready_new hnew).2
  have hleft : first.left = 1 := by
    rw [left, hset, generation_new hnew]
    rfl
  have hends : (first.run (.total levelCount)).ending ≠ .error (.fault .endlessDraw) := by
    have hstop : first.settings.stopOnPerfect = true → ∀ s ∈ [stats], s.best ≠ 0 := by
      rw [hset]
      nofun
    have hnext : ¬ next.generation < next.settings.generations := by
      rw [generation_lt_iff, left_step hstep, hleft]
      decide
    rw [run_of_steps (steps_succ_eq_ok hstep rfl) (Nat.le_of_eq hleft.symm) hstop,
      run_of_le (UInt64.not_lt.mp hnext)]
    nofun
  obtain ⟨hacc, -, hgen, -, hend, -⟩ := run_accounts (.total levelCount) (.new hnew)
  refine ⟨first, hnew, hacc, ?_, hgen⟩
  rcases hend hends (.inl (by rw [hset]; decide)) with hok | ⟨_, _, _, hb, -⟩
  · exact hok
  · cases hb

/-- Not every run whose programs can all be scored uses up its generations or stops early:
one whose tournaments cannot be held ends at once, without a report. -/
theorem run_crowded :
    ∃ first, new crowded (.upTo 4) = .ok first ∧
      (∀ p ∈ first.population, ∃ score, Fitness.total levelCount p = .ok score) ∧
      first.left = 1 ∧ (first.run (.total levelCount)).reports = [] ∧
      (first.run (.total levelCount)).ending = .error (.fault .capacityOverflow) := by
  obtain ⟨first, hnew, hstep⟩ := exists_new_crowded
  have hleft : first.left = 1 := by
    rw [left, (ready_new hnew).2, generation_new hnew]
    rfl
  have hrun : first.run (.total levelCount) = ⟨first, [], .error (.fault .capacityOverflow)⟩ := by
    rw [run_of_lt (generation_lt_iff.mpr (hleft ▸ Nat.one_pos)), hstep]
  exact ⟨first, hnew, fun p _ => ⟨levelCount p, rfl⟩, hleft, by rw [hrun], by rw [hrun]⟩

end AntTrail.Engine
