import AntTrail.Program.Stored
import AntTrail.Proofs.Bytes.Exact
import AntTrail.Proofs.Program.Tree

/-!
# Programs are read from their bytes exactly

The bytes of a program are a code without ambiguity: the decoder takes them and
nothing more, and accepts nothing else.
-/
namespace AntTrail

open Bytes (Decoder littleEndian)

theorem Kind.number_lt (k : Kind) : k.number < Kind.all.length :=
  (List.getElem?_eq_some_iff.mp k.all_number).1

theorem Kind.number_of_all {n : Nat} {k : Kind} (h : Kind.all[n]? = some k) : k.number = n := by
  have hn := (List.getElem?_eq_some_iff.mp h).1
  simp only [Kind.all, List.length_cons, List.length_nil] at hn
  match n, hn with
  | 0, _ | 1, _ | 2, _ | 3, _ | 4, _ | 5, _ => cases h; rfl

namespace Program

theorem reads_kind : Reads decodeKind encodeKind (fun _ => True) where
  run_write := by
    intro k _ rest
    have hk : k.number < Nat.pow 256 4 := Nat.lt_trans k.number_lt (by decide)
    rw [encodeKind, decodeKind, run_bind_ok ((Decoder.reads_number 4).run_write hk rest),
      k.all_number]
    rfl
  of_run := by
    intro ts k rest hr
    obtain ⟨n, s₁, h₁, h₂⟩ := run_bind_eq_ok.mp hr
    obtain ⟨-, rfl⟩ := (Decoder.reads_number 4).of_run h₁
    cases hn : Kind.all[n]? with
    | none =>
      rw [hn] at h₂
      exact absurd h₂ run_throw_ne_ok
    | some k' =>
      rw [hn] at h₂
      obtain ⟨rfl, rfl⟩ := run_pure_eq_ok.mp h₂
      exact ⟨trivial, by rw [encodeKind, Kind.number_of_all hn]⟩

theorem reads_decodeTree (fuel : Nat) :
    Reads (decodeTree fuel) encode (fun p => p.height < fuel) := by
  have h : Reads (decodeTree fuel) _ _ :=
    Reads.tree reads_kind (by intro ts p rest h; cases h) (fun _ => rfl) fuel
  rw [show encode = fun p => p.kinds.flatMap encodeKind from funext encode_eq_flatMap]
  simpa using h

theorem length_encode (p : Program) : p.encode.length = 4 * p.size := by
  rw [encode_eq_flatMap, List.length_flatMap, ← length_kinds]
  induction p.kinds with
  | nil => rfl
  | cons k ks ih =>
    rw [List.map_cons, List.sum_cons, ih, encodeKind, Bytes.length_littleEndian, List.length_cons]
    omega

/-- As much fuel as there are bytes is enough, for a node takes four. -/
theorem reads_decoder : Reads decoder encode (fun _ => True) where
  run_write := by
    intro p _ rest
    refine (reads_decodeTree _).run_write ?_ rest
    have hs := p.height_lt_size
    have hl := p.length_encode
    rw [List.length_append]
    omega
  of_run := by
    intro ts p rest hr
    exact ⟨trivial, ((reads_decodeTree _).of_run hr).2⟩

end Program
end AntTrail
