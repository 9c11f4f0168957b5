import AntTrail.Proofs.Evolution.Stored
import AntTrail.Proofs.Timestamp.Bounds

/-!
# Checkpoints are decoded exactly

A checkpoint that can be stored is what its own bytes give, with anything after them
and with nothing less (`decode_encode_append`, `decode_error_of_prefix`). The version
stands in the first four bytes, so a checkpoint of another version is refused whatever
else it holds (`decode_error_of_version_ne`).
-/
namespace AntTrail

open Bytes (Decoder)

namespace Bytes.Decoder

theorem steady_instant : Steady instant := by
  refine reads_text.steady.bind fun s => ?_
  cases Timestamp.read s with
  | error e => exact .throw
  | ok t => exact .pure

end Bytes.Decoder

namespace Checkpoint

theorem steady_decoder : Steady decoder := by
  refine Decoder.reads_uint32.steady.bind fun version => ?_
  refine Decoder.steady_instant.bind fun timestamp => ?_
  refine Decoder.reads_uint64.steady.bind fun generation => ?_
  refine Decoder.reads_uint64.steady.bind fun seed => ?_
  refine reads_source.steady.bind fun source => ?_
  refine (Decoder.reads_list Program.reads_decoder).steady.bind fun population => ?_
  exact (Decoder.reads_optional reads_best).steady.bind fun best => .pure

/-- The version that is decoded is the one that the first four bytes write. -/
theorem version_of_run {version : UInt32} {bs rest : List UInt8} {c : Checkpoint}
    (h : decoder.run (Bytes.encodeUInt32 version ++ bs) = .ok (c, rest)) :
    c.version = version := by
  rw [decoder, run_bind_ok (Decoder.reads_uint32.run_write trivial bs)] at h
  obtain ⟨timestamp, _, -, h⟩ := run_bind_eq_ok.mp h
  obtain ⟨generation, _, -, h⟩ := run_bind_eq_ok.mp h
  obtain ⟨seed, _, -, h⟩ := run_bind_eq_ok.mp h
  obtain ⟨source, _, -, h⟩ := run_bind_eq_ok.mp h
  obtain ⟨population, _, -, h⟩ := run_bind_eq_ok.mp h
  obtain ⟨best, _, -, h⟩ := run_bind_eq_ok.mp h
  obtain ⟨rfl, -⟩ := run_pure_eq_ok.mp h
  rfl

/-- What can be stored without loss: an instant that is read back from its text, and no
more programs than eight bytes count. -/
structure Storable (c : Checkpoint) : Prop where
  read_text : Timestamp.read c.timestamp.text = .ok c.timestamp
  length_lt : c.population.length < UInt64.size

namespace Storable

variable {c : Checkpoint} (h : c.Storable)
include h

theorem run_encode_append (more : List UInt8) : decoder.run (c.encode ++ more) = .ok (c, more) :=
  run_encode h.read_text (Timestamp.length_encode_text_lt h.read_text) h.length_lt more

theorem decode_encode_append (more : List UInt8) :
    decode (c.encode ++ more) =
      if c.version = currentVersion then .ok c else .error (.unsupported c.version) := by
  have hr : decoder.run' (c.encode ++ more) = .ok c :=
    run'_eq_ok.mpr ⟨more, h.run_encode_append more⟩
  rw [decode, hr]

/-- Of the bytes of a checkpoint none can be missing at the end. -/
theorem decode_error_of_prefix {front : List UInt8} (hp : front <+: c.encode)
    (hne : front ≠ c.encode) : ∃ e, decode front = .error (.unreadable e) := by
  have hr := h.run_encode_append []
  rw [List.append_nil] at hr
  obtain ⟨e, he⟩ := steady_decoder.error_of_prefix hr hp hne
  exact ⟨e, by rw [decode, he]⟩

end Storable

/-- A version that is not supported is refused, even if the rest cannot be read. -/
theorem decode_error_of_version_ne {c : Checkpoint} (hv : c.version ≠ currentVersion)
    (more : List UInt8) : ∃ e, decode (c.encode ++ more) = .error e := by
  rw [decode]
  cases hr : decoder.run' (c.encode ++ more) with
  | error e => exact ⟨.unreadable e, rfl⟩
  | ok c' =>
    obtain ⟨rest, hrun⟩ := run'_eq_ok.mp hr
    simp only [encode, List.append_assoc] at hrun
    have hversion : c'.version = c.version := version_of_run hrun
    rw [← hversion] at hv
    exact ⟨.unsupported c'.version, if_neg hv⟩

/-- Checkpoints are decoded exactly. The bytes of a checkpoint of the current version give
that checkpoint, whatever follows them; no shorter front of them gives any; and the
bytes of a checkpoint of another version give none, however its instant is written. -/
theorem decode_exact (c : Checkpoint) :
    (c.Storable → c.version = currentVersion → ∀ more, decode (c.encode ++ more) = .ok c) ∧
    (c.Storable → ∀ front, front <+: c.encode → front ≠ c.encode →
      ∃ e, decode front = .error (.unreadable e)) ∧
    (c.version ≠ currentVersion → ∀ more, ∃ e, decode (c.encode ++ more) = .error e) := by
  refine ⟨fun hs hv more => ?_, fun hs front hp hne => hs.decode_error_of_prefix hp hne,
    fun hv more => decode_error_of_version_ne hv more⟩
  rw [hs.decode_encode_append more, if_pos hv]

/-- A checkpoint of two programs, of any version. -/
def pairAtNoon (version : UInt32) : Checkpoint where
  version := version
  timestamp := ⟨739251, 43200, 5⟩
  generation := 17
  seed := 5489
  source := (Draw.Source.ofSeed 5489).save
  population := [.seq2 (.action .move) (.action .turnLeft), .action .move]
  best := some ⟨.ifFood (.action .move) (.action .turnRight), 42, 3⟩

theorem decode_exact_pairAtNoon :
    (pairAtNoon 1).Storable ∧ decode ((pairAtNoon 1).encode ++ [7]) = .ok (pairAtNoon 1) ∧
      (∃ e, decode (pairAtNoon 1).encode.dropLast = .error (.unreadable e)) ∧
      ∃ e, decode ((pairAtNoon 2).encode ++ []) = .error e := by
  have hs : (pairAtNoon 1).Storable := ⟨rfl, by decide⟩
  have hne : (pairAtNoon 1).encode.dropLast ≠ (pairAtNoon 1).encode := by
    intro h
    have hl := congrArg List.length h
    have hpos : 0 < (pairAtNoon 1).encode.length := by
      simp only [encode, Bytes.encodeUInt32, List.length_append, Bytes.length_littleEndian]
      omega
    rw [List.length_dropLast] at hl
    omega
  exact ⟨hs, (decode_exact (pairAtNoon 1)).1 hs rfl [7],
    (decode_exact (pairAtNoon 1)).2.1 hs _ (List.dropLast_prefix _) hne,
    (decode_exact (pairAtNoon 2)).2.2 (by decide) []⟩

end Checkpoint
end AntTrail
