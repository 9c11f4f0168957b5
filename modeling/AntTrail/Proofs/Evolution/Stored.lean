import AntTrail.Evolution.Checkpoint
import AntTrail.Proofs.Program.Stored

/-!
# Checkpoints are read back

Everything a checkpoint holds except its instant is read from its bytes exactly.
`Checkpoint.run_encode` puts the parts together: the bytes of a checkpoint, with
anything after them, give the checkpoint and what came after.
-/
namespace AntTrail

open Bytes (Decoder)

namespace Checkpoint

theorem reads_source : Reads decodeSource encodeSource (fun _ => True) where
  run_write := by
    intro s _ rest
    have hp : s.position.toNat < Nat.pow 256 16 := s.position.isLt
    have hk : (Vector.ofFn fun i : Fin 8 => s.key.toList[i.val]?.getD 0) = s.key := by
      ext i hi
      simp
    rw [encodeSource, List.append_assoc, List.append_assoc, decodeSource,
      run_bind_ok ((Decoder.reads_many Decoder.reads_uint32 8).run_write ⟨by simp, by simp⟩ _),
      run_bind_ok (Decoder.reads_uint64.run_write trivial _),
      run_bind_ok ((Decoder.reads_number 16).run_write hp _), hk, BitVec.ofNat_toNat]
    rfl
  of_run := by
    intro ts s rest hr
    obtain ⟨words, s₁, h₁, h⟩ := run_bind_eq_ok.mp hr
    obtain ⟨stream, s₂, h₂, h⟩ := run_bind_eq_ok.mp h
    obtain ⟨position, s₃, h₃, h₄⟩ := run_bind_eq_ok.mp h
    obtain ⟨rfl, rfl⟩ := run_pure_eq_ok.mp h₄
    obtain ⟨⟨hl, -⟩, rfl⟩ := (Decoder.reads_many Decoder.reads_uint32 8).of_run h₁
    obtain ⟨-, rfl⟩ := Decoder.reads_uint64.of_run h₂
    obtain ⟨hp, rfl⟩ := (Decoder.reads_number 16).of_run h₃
    have hk : (Vector.ofFn fun i : Fin 8 => words[i.val]?.getD 0).toList = words := by
      apply List.ext_getElem
      · simp [hl]
      · intro i h₁ h₂
        simp [h₂]
    refine ⟨trivial, ?_⟩
    rw [encodeSource, hk, BitVec.toNat_ofNat, Nat.mod_eq_of_lt hp]
    simp

theorem reads_best : Reads decodeBest encodeBest (fun _ => True) where
  run_write := by
    intro b _ rest
    rw [encodeBest, List.append_assoc, List.append_assoc, decodeBest,
      run_bind_ok (Program.reads_decoder.run_write trivial _),
      run_bind_ok (Decoder.reads_int32.run_write trivial _),
      run_bind_ok (Decoder.reads_uint64.run_write trivial _)]
    rfl
  of_run := by
    intro ts b rest hr
    obtain ⟨program, s₁, h₁, h⟩ := run_bind_eq_ok.mp hr
    obtain ⟨score, s₂, h₂, h⟩ := run_bind_eq_ok.mp h
    obtain ⟨generation, s₃, h₃, h₄⟩ := run_bind_eq_ok.mp h
    obtain ⟨rfl, rfl⟩ := run_pure_eq_ok.mp h₄
    obtain ⟨-, rfl⟩ := Program.reads_decoder.of_run h₁
    obtain ⟨-, rfl⟩ := Decoder.reads_int32.of_run h₂
    obtain ⟨-, rfl⟩ := Decoder.reads_uint64.of_run h₃
    exact ⟨trivial, by simp [encodeBest]⟩

/-- A checkpoint is read back from its bytes, whatever follows them. -/
theorem run_encode {c : Checkpoint} (ht : Timestamp.read c.timestamp.text = .ok c.timestamp)
    (hl : (Text.Utf8.encode c.timestamp.text).length < UInt64.size)
    (hp : c.population.length < UInt64.size) (rest : List UInt8) :
    decoder.run (c.encode ++ rest) = .ok (c, rest) := by
  have hps := (Decoder.reads_list Program.reads_decoder).run_write (x := c.population)
    ⟨hp, fun _ _ => trivial⟩
  have hb := (Decoder.reads_optional reads_best).run_write (x := c.best) (fun _ _ => trivial)
  simp only [encode, List.append_assoc]
  rw [decoder, run_bind_ok (Decoder.reads_uint32.run_write trivial _),
    run_bind_ok (Decoder.run_instant ht hl _),
    run_bind_ok (Decoder.reads_uint64.run_write trivial _),
    run_bind_ok (Decoder.reads_uint64.run_write trivial _),
    run_bind_ok (reads_source.run_write trivial _), run_bind_ok (hps _), run_bind_ok (hb rest)]
  rfl

end Checkpoint
end AntTrail
