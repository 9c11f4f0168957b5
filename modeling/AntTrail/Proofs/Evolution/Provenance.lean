import AntTrail.Proofs.Evolution.Decoding
import AntTrail.Proofs.Evolution.Progress
import AntTrail.Proofs.Evolution.Resumption

/-!
# What a resumed run writes down

A checkpoint taken as soon as a run has been resumed is the one from which it was
resumed, but for two things (`checkpoint_of_resume`). The source is written by its place
in the stream, so a position beyond the period is written as the one it stands for. And
the seed is that of the settings, as a run keeps no other: from one checkpoint to the
next the seed of the beginning is passed on only by settings that repeat it
(`Lineage.settings_eq`).
-/
namespace AntTrail

namespace Draw.Source

/-- A source is at the place that was saved, counted modulo the period. -/
theorem save_restore (s : Saved) :
    s.restore.save = ⟨s.key, s.stream, BitVec.ofNat 128 (s.position.toNat % period)⟩ := rfl

theorem save_restore_of_lt {s : Saved} (h : s.position.toNat < period) : s.restore.save = s := by
  rw [save_restore, Nat.mod_eq_of_lt h, BitVec.ofNat_toNat, BitVec.setWidth_eq]

/-- No run writes a position beyond the period. -/
theorem position_save_lt (s : Source) : s.save.position.toNat < period :=
  Nat.lt_of_le_of_lt (Nat.mod_le ..) s.position_lt

end Draw.Source

namespace Checkpoint

theorem version_of_decode {bs : List UInt8} {c : Checkpoint} (h : decode bs = .ok c) :
    c.version = currentVersion := by
  rw [decode] at h
  cases hr : decoder.run' bs with
  | error e =>
    rw [hr] at h
    cases h
  | ok c' =>
    rw [hr] at h
    dsimp only at h
    split at h
    · next hv => exact Except.ok.inj h ▸ hv
    · cases h

end Checkpoint

namespace Engine

variable {settings : EvolutionSettings} {c : Checkpoint} {build : PoolBuilder} {e : Engine}

theorem exists_accept (h : settings.check = .ok ()) : ∃ g, accept settings = .ok g := by
  obtain ⟨-, -, -, -, -, -, hgrowth⟩ := EvolutionSettings.check_eq_ok_iff.mp h
  obtain ⟨g, hg⟩ := Generator.exists_ofBounds (GrowthBounds.check_eq_ok_iff.mpr hgrowth)
  exact ⟨g, accept_of_check h hg⟩

/-- Only workers can keep a run from being resumed under settings that fit. -/
theorem exists_resume_iff (h : settings.check = .ok ())
    (hsize : c.population.length = settings.populationSize) :
    (∃ e, resume settings c build = .ok e) ↔ build settings.numWorkers workerName = .ok () := by
  constructor
  · rintro ⟨e, he⟩
    obtain ⟨generator, ha, -, -⟩ := resume_cases he
    exact (assemble_eq_ok_iff.mp ha).2
  · intro hworkers
    obtain ⟨g, hg⟩ := exists_accept h
    have ha := assemble_eq_ok_iff.mpr ⟨hg, hworkers⟩
    exact ⟨_, by rw [resume, if_neg (Decidable.not_not.mpr hsize), ha]; rfl⟩

theorem checkpoint_of_resume (hv : c.version = Checkpoint.currentVersion)
    (h : resume settings c build = .ok e) (now : Timestamp) :
    e.checkpoint now =
      { c with timestamp := now, seed := settings.seed, source := c.source.restore.save } := by
  obtain ⟨generator, -, -, rfl⟩ := resume_cases h
  rw [checkpoint, ← hv]

/-! ## From one checkpoint to the next -/

/-- The runs that there can be in one sitting after another: each goes on from the
checkpoint that was stored of the one before, under settings of its own. The settings of
all sittings are listed, the last ones first. -/
inductive Lineage (fitness : Fitness) : List EvolutionSettings → Engine → Prop
  | new {settings : EvolutionSettings} {build : PoolBuilder} {e : Engine}
    (h : new settings build = .ok e) : Lineage fitness [settings] e
  | step {used : List EvolutionSettings} {e next : Engine} {stats : Stats}
    (he : Lineage fitness used e) (h : e.step fitness = .ok (stats, next)) :
    Lineage fitness used next
  | resume {used : List EvolutionSettings} {settings : EvolutionSettings} {build : PoolBuilder}
    {e next : Engine} {now : Timestamp} {c : Checkpoint} (he : Lineage fitness used e)
    (hc : Checkpoint.decode (e.checkpoint now).encode = .ok c)
    (h : resume settings c build = .ok next) : Lineage fitness (settings :: used) next

/-- A run has the settings of the last sitting. -/
theorem Lineage.settings_eq {fitness : Fitness} {used : List EvolutionSettings}
    (h : Lineage fitness used e) : used.head? = some e.settings := by
  induction h with
  | new h => rw [(ready_new h).2, List.head?_cons]
  | step _ h ih => rw [ih, settings_step h]
  | resume _ _ h _ =>
    obtain ⟨generator, -, -, rfl⟩ := resume_cases h
    rfl

/-- What is lost by resuming and taking a checkpoint again. From every checkpoint that can
be read a run goes on under settings that pass their check and ask for as many programs,
exactly if the workers start, and a checkpoint taken at once is the same but for the
instant, the seed, which is that of the settings, and the place of the source, which is
written within the period and from which the same source is restored. So it is the same
but for the instant if the seed is kept and the place was within the period, as it is in
all that runs write. From sitting to sitting the seed written down is the one of the last
settings, so that it stays that of the beginning if all settings have it. -/
theorem checkpoint_provenance {bs : List UInt8} (hc : Checkpoint.decode bs = .ok c)
    (hcheck : settings.check = .ok ()) (hsize : c.population.length = settings.populationSize)
    (now : Timestamp) :
    ((∃ e, resume settings c build = .ok e) ↔ build settings.numWorkers workerName = .ok ()) ∧
    (∀ e, resume settings c build = .ok e →
      e.checkpoint now =
        { c with timestamp := now, seed := settings.seed, source := c.source.restore.save } ∧
      (e.checkpoint now).source.restore = c.source.restore ∧
      (settings.seed = c.seed → c.source.position.toNat < Draw.period →
        e.checkpoint now = { c with timestamp := now })) ∧
    ∀ fitness used last, Lineage fitness used last →
      (last.checkpoint now).source.position.toNat < Draw.period ∧
      used.head?.map EvolutionSettings.seed = some (last.checkpoint now).seed ∧
      ∀ seed, (∀ s ∈ used, s.seed = seed) → (last.checkpoint now).seed = seed := by
  refine ⟨exists_resume_iff hcheck hsize, ?_, ?_⟩
  · intro e he
    have hcp := checkpoint_of_resume (Checkpoint.version_of_decode hc) he now
    refine ⟨hcp, ?_, ?_⟩
    · rw [hcp, Draw.Source.restore_save]
    · intro hseed hpos
      rw [hcp, Draw.Source.save_restore_of_lt hpos, hseed]
  · intro fitness used last hlast
    have hhead := hlast.settings_eq
    refine ⟨last.source.position_save_lt, ?_, ?_⟩
    · rw [hhead]
      rfl
    · intro seed hall
      exact hall _ (List.mem_of_mem_head? hhead)

/-- Settings for two programs. -/
def paired : EvolutionSettings := { solitary with populationSize := 2 }

theorem checkpoint_provenance_pairAtNoon :
    ∃ e, Checkpoint.decode (Checkpoint.pairAtNoon 1).encode = .ok (Checkpoint.pairAtNoon 1) ∧
      paired.check = .ok () ∧ resume paired (Checkpoint.pairAtNoon 1) (.upTo 4) = .ok e ∧
      e.checkpoint ⟨739252, 0, 0⟩ =
        { Checkpoint.pairAtNoon 1 with timestamp := ⟨739252, 0, 0⟩ } := by
  have hc : Checkpoint.decode (Checkpoint.pairAtNoon 1).encode = .ok (Checkpoint.pairAtNoon 1) := by
    have hs : (Checkpoint.pairAtNoon 1).Storable := ⟨rfl, by decide⟩
    have h := hs.decode_encode_append []
    rw [List.append_nil] at h
    exact h
  have hcheck : paired.check = .ok () := rfl
  obtain ⟨hiff, hall, -⟩ := checkpoint_provenance hc hcheck rfl ⟨739252, 0, 0⟩
  obtain ⟨e, he⟩ := hiff.mpr (PoolBuilder.upTo_eq_ok (Nat.le_refl 4) _)
  obtain ⟨-, -, hkept⟩ := hall e he
  exact ⟨e, hc, hcheck, he, hkept rfl (Draw.Source.position_save_lt _)⟩

/-- A run that was begun with one seed and resumed under settings with another writes the
other one down. -/
theorem seed_of_resumed :
    ∃ first c e, new solitary (.upTo 4) = .ok first ∧
      Checkpoint.decode (first.checkpoint ⟨739251, 43200, 5⟩).encode = .ok c ∧
      EvolutionSettings.check { solitary with seed := 1 } = .ok () ∧
      resume { solitary with seed := 1 } c (.upTo 4) = .ok e ∧
      Lineage bySize [{ solitary with seed := 1 }, solitary] e ∧ c.seed = solitary.seed ∧
      ∀ now, (e.checkpoint now).seed ≠ c.seed := by
  have hrun : (new solitary (.upTo 4)).isOk := by decide +kernel
  obtain ⟨first, hnew⟩ := exists_of_isOk hrun
  obtain ⟨hready, hset⟩ := ready_new hnew
  have hc := decode_encode_checkpoint hready (by rw [hset]; decide)
    (rfl : Timestamp.read (Timestamp.text ⟨739251, 43200, 5⟩) = .ok ⟨739251, 43200, 5⟩)
  have hcheck : EvolutionSettings.check { solitary with seed := 1 } = .ok () := rfl
  have halike : { solitary with seed := 1 }.BreedAlike first.settings :=
    hset ▸ ⟨rfl, rfl, rfl, rfl, rfl⟩
  have he := resume_checkpoint hready hcheck (PoolBuilder.upTo_eq_ok (Nat.le_refl 4) _) halike
    ⟨739251, 43200, 5⟩
  refine ⟨first, _, _, hnew, hc, hcheck, he, (Lineage.new hnew).resume hc he, ?_, ?_⟩
  · exact congrArg EvolutionSettings.seed hset
  · intro now
    show (1 : UInt64) ≠ first.settings.seed
    rw [hset]
    decide

end Engine
end AntTrail
