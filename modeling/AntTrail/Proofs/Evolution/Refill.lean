import AntTrail.Proofs.Evolution.Progress
import AntTrail.Proofs.Program.Depth

/-!
# What fills a population

A refill is made in chunks, but each of its programs has a place of its own: it grows from
the seed of its chunk, after those before it in the chunk (`Generator.Grows`). Whatever
gives each place its program is the refill (`run_refill_eq_ok_iff`). So the number of
programs decides how many seeds are drawn and nothing else, and fewer programs are the first
of more (`refill_pointwise`).
-/
namespace AntTrail.Generator

variable {g : Generator} {seed : UInt64} {seeds : List UInt64} {front rest ps : List Program}
  {p : Program} {i count : Nat} {s s' : Draw.Source}

/-- Every place is in a chunk. -/
theorem div_lt_chunkCount (hi : i < count) : i / chunkSize < chunkCount count := by
  unfold chunkCount chunkSize
  omega

theorem chunkCount_le {fewer : Nat} (h : fewer ≤ count) : chunkCount fewer ≤ chunkCount count :=
  Nat.div_le_div_right (Nat.add_le_add_right h _)

/-- The program for a place grows from the seed of its chunk, after those before it there. -/
def Grows (g : Generator) (seeds : List UInt64) (i : Nat) (p : Program) : Prop :=
  ∃ seed, seeds[i / chunkSize]? = some seed ∧
    (Draw.nth g.generate (i % chunkSize)).run' (.ofSeed seed) = .ok p

/-- The places of the first chunk. -/
theorem grows_cons_of_lt (hi : i < chunkSize) :
    g.Grows (seed :: seeds) i p ↔ (Draw.nth g.generate i).run' (.ofSeed seed) = .ok p := by
  rw [Grows, Nat.div_eq_of_lt hi, Nat.mod_eq_of_lt hi]
  simp

/-- The places behind the first chunk. -/
theorem grows_cons_add : g.Grows (seed :: seeds) (chunkSize + i) p ↔ g.Grows seeds i p := by
  rw [Grows, Nat.add_div_left i (by decide), Nat.add_mod_left]
  simp [Grows]

/-! ## Chunks -/

theorem chunk_eq_ok_iff {n : Nat} :
    g.chunk seed n = .ok ps ↔
      ps.length = n ∧ ∀ i p, ps[i]? = some p →
        (Draw.nth g.generate i).run' (.ofSeed seed) = .ok p :=
  Draw.run'_times_eq_ok_iff

/-- A first chunk is full unless nothing follows it. -/
theorem nil_or_full (hfront : front.length = min chunkSize count)
    (hrest : rest.length = count - chunkSize) : rest = [] ∨ front.length = chunkSize := by
  rcases Nat.le_total count chunkSize with hle | hle
  · exact .inl (List.length_eq_zero_iff.mp (by omega))
  · exact .inr (by omega)

/-- The places of a first chunk, and those of what follows it. -/
theorem forall_grows_append (hfront : front.length = min chunkSize count)
    (hrest : rest.length = count - chunkSize) :
    (∀ i p, (front ++ rest)[i]? = some p → g.Grows (seed :: seeds) i p) ↔
      (∀ i p, front[i]? = some p → (Draw.nth g.generate i).run' (.ofSeed seed) = .ok p) ∧
      ∀ i p, rest[i]? = some p → g.Grows seeds i p := by
  have hfull := nil_or_full hfront hrest
  constructor
  · intro h
    refine ⟨fun i p hi => ?_, fun i p hi => ?_⟩
    · obtain ⟨hlt, -⟩ := List.getElem?_eq_some_iff.mp hi
      exact (grows_cons_of_lt (by omega)).mp (h i p (by rw [List.getElem?_append_left hlt, hi]))
    · rcases hfull with rfl | hfull
      · cases hi
      · refine grows_cons_add.mp (h _ p ?_)
        rw [← hfull, List.getElem?_append_right (Nat.le_add_right ..), Nat.add_sub_cancel_left, hi]
  · rintro ⟨hf, hr⟩ i p hi
    by_cases hlt : i < front.length
    · rw [List.getElem?_append_left hlt] at hi
      exact (grows_cons_of_lt (by omega)).mpr (hf i p hi)
    · rw [List.getElem?_append_right (Nat.not_lt.mp hlt)] at hi
      rcases hfull with rfl | hfull
      · cases hi
      · obtain ⟨j, rfl⟩ := Nat.exists_eq_add_of_le (Nat.not_lt.mp hlt)
        rw [Nat.add_sub_cancel_left] at hi
        rw [hfull]
        exact grows_cons_add.mpr (hr j p hi)

/-- All chunks together give every place its program, and nothing else does. -/
theorem chunks_eq_ok_iff (hs : seeds.length = chunkCount count) :
    g.chunks seeds count = .ok ps ↔
      ps.length = count ∧ ∀ i p, ps[i]? = some p → g.Grows seeds i p := by
  induction seeds generalizing count ps with
  | nil =>
    have hcount : count = 0 := by
      simp only [chunkCount, chunkSize, List.length_nil] at hs
      omega
    rw [chunks, Except.ok.injEq, hcount, List.length_eq_zero_iff, eq_comm]
    refine ⟨fun h => ⟨h, by simp [h]⟩, And.left⟩
  | cons seed seeds ih =>
    have hs' : seeds.length = chunkCount (count - chunkSize) := by
      simp only [chunkCount, chunkSize, List.length_cons] at hs ⊢
      omega
    constructor
    · intro h
      obtain ⟨front, hfront, h⟩ := bind_eq_ok.mp h
      obtain ⟨rest, hrest, h⟩ := bind_eq_ok.mp h
      obtain rfl := pure_eq_ok.mp h
      obtain ⟨hlength, hf⟩ := chunk_eq_ok_iff.mp hfront
      obtain ⟨hlength', hr⟩ := (ih hs').mp hrest
      refine ⟨?_, (forall_grows_append hlength hlength').mpr ⟨hf, hr⟩⟩
      rw [List.length_append]
      omega
    · rintro ⟨hlength, h⟩
      have htake : (ps.take chunkSize).length = min chunkSize count := by
        rw [List.length_take, hlength]
      have hdrop : (ps.drop chunkSize).length = count - chunkSize := by
        rw [List.length_drop, hlength]
      rw [← List.take_append_drop chunkSize ps] at h
      obtain ⟨hf, hr⟩ := (forall_grows_append htake hdrop).mp h
      refine bind_eq_ok.mpr ⟨_, chunk_eq_ok_iff.mpr ⟨htake, hf⟩, ?_⟩
      refine bind_eq_ok.mpr ⟨_, (ih hs').mpr ⟨hdrop, hr⟩, ?_⟩
      rw [List.take_append_drop]
      rfl

/-! ## Refills -/

/-- A refill draws a seed for each chunk and nothing else, and gives each place its program. -/
theorem run_refill_eq_ok_iff :
    (g.refill count).run s = .ok (ps, s') ↔
      ∃ seeds, (Draw.times Draw.word64 (chunkCount count)).run s = .ok (seeds, s') ∧
        ps.length = count ∧ ∀ i p, ps[i]? = some p → g.Grows seeds i p := by
  rw [refill, run_bind_eq_ok]
  refine exists_congr fun seeds => ?_
  constructor
  · rintro ⟨s₁, hseeds, h⟩
    obtain ⟨hps, rfl⟩ := run_lift_eq_ok.mp h
    have hlength := Draw.ensures_times _ _ _ _ _ hseeds
    exact ⟨hseeds, (chunks_eq_ok_iff hlength).mp hps⟩
  · rintro ⟨hseeds, hps⟩
    have hlength := Draw.ensures_times _ _ _ _ _ hseeds
    exact ⟨s', hseeds, run_lift_eq_ok.mpr ⟨(chunks_eq_ok_iff hlength).mpr hps, rfl⟩⟩

/-- Fewer seeds are enough for the places of their chunks. -/
theorem Grows.take {n : Nat} (h : g.Grows seeds i p) (hi : i / chunkSize < n) :
    g.Grows (seeds.take n) i p := by
  obtain ⟨seed, hseed, hp⟩ := h
  exact ⟨seed, by rw [List.getElem?_take_of_lt hi, hseed], hp⟩

/-- What fills a population, place by place. If its draws end, a refill has as many programs
as are asked for, and it leaves the source after one word of 64 bits for each chunk of 64
programs, the last of which may be shorter. The program at a place is the one that grows from
the word of its chunk, as a seed, after as many as there are places before it in the chunk.
Fewer programs from the same source are the first of these. -/
theorem refill_pointwise {bounds : GrowthBounds} {kinds : List Kind}
    (h : ofKinds bounds kinds = .ok g) (hend : (g.refill count).run s ≠ .error .endlessDraw) :
    ∃ ps seeds s', (g.refill count).run s = .ok (ps, s') ∧ ps.length = count ∧
      (Draw.times Draw.word64 ((count + 63) / 64)).run s = .ok (seeds, s') ∧
      (∀ i p, ps[i]? = some p → ∃ seed, seeds[i / 64]? = some seed ∧
        (Draw.nth g.generate (i % 64)).run' (.ofSeed seed) = .ok p) ∧
      ∀ fewer ≤ count, ∃ s₁, (g.refill fewer).run s = .ok (ps.take fewer, s₁) := by
  cases hrun : (g.refill count).run s with
  | error e =>
    have he := (stocked_ofKinds h).unfailing_refill count s e hrun
    exact absurd (he ▸ hrun) hend
  | ok r =>
    obtain ⟨ps, s'⟩ := r
    obtain ⟨seeds, hseeds, hlength, hgrows⟩ := run_refill_eq_ok_iff.mp hrun
    refine ⟨ps, seeds, s', rfl, hlength, hseeds, hgrows, fun fewer hle => ?_⟩
    obtain ⟨s₁, hfirst⟩ :=
      run'_eq_ok.mp (Draw.run'_times_take (run'_eq_ok.mpr ⟨s', hseeds⟩) (chunkCount_le hle))
    refine ⟨s₁, run_refill_eq_ok_iff.mpr ⟨_, hfirst, by simp [hlength, hle], fun i p hi => ?_⟩⟩
    rw [List.getElem?_take] at hi
    split at hi
    · next hlt => exact Grows.take (hgrows i p hi) (div_lt_chunkCount hlt)
    · cases hi

/-- Three programs from one seed, the last of them a pair of leaves; two are the first two. -/
theorem refill_pointwise_assorted :
    ∃ ps seeds s' seed s₁, (assorted.refill 3).run (.ofSeed 1) = .ok (ps, s') ∧
      (Draw.times Draw.word64 1).run (.ofSeed 1) = .ok (seeds, s') ∧ seeds[0]? = some seed ∧
      (Draw.nth assorted.generate 2).run' (.ofSeed seed) =
        .ok (.seq2 (.action .move) (.action .turnLeft)) ∧
      (assorted.refill 2).run (.ofSeed 1) = .ok (ps.take 2, s₁) := by
  have haccepted : ofKinds { minHeight := 1, maxHeight := 2 }
      [.seq2, .action .move, .action .move, .ifFood, .action .turnLeft, .seq3] = .ok assorted := rfl
  have hlast : (do let ps ← (assorted.refill 3).run' (.ofSeed 1); return ps[2]?) =
      .ok (some (.seq2 (.action .move) (.action .turnLeft))) :=
    eq_ok_of_toOption (by decide +kernel)
  obtain ⟨ps, hps, hlast⟩ := bind_eq_ok.mp hlast
  obtain ⟨s', hrun⟩ := run'_eq_ok.mp hps
  obtain ⟨qs, seeds, _, hrun', -, hseeds, hgrows, hfewer⟩ :=
    refill_pointwise haccepted (by rw [hrun]; exact nofun)
  obtain ⟨rfl, rfl⟩ := Prod.mk.inj (Except.ok.inj (hrun'.symm.trans hrun))
  obtain ⟨seed, hseed, hp⟩ := hgrows 2 _ (pure_eq_ok.mp hlast)
  obtain ⟨s₁, htwo⟩ := hfewer 2 (by decide)
  exact ⟨_, seeds, _, seed, s₁, hrun, hseeds, hseed, hp, htwo⟩

end AntTrail.Generator
