import AntTrail.Proofs.Program.Stored

/-!
# Programs are a prefix code

Bytes are decoded as a program just if they begin with its bytes, and no program's bytes
begin with another's (`eq_of_encode_prefix`). Where bytes begin with no program, reading
fails at the first kind that cannot be read: what stands before it is the beginning of a
program that is not complete (`Begins`), and there the bytes end inside a number or the
number names no kind (`Stuck`). That a reader of trees fails where its reader of kinds does
is shown for every form in which kinds are written (`Reads.tree_error`).
-/
namespace AntTrail

namespace Program

/-- The kinds in pre-order of a program that is not complete. -/
def Begins (ks : List Kind) : Prop := ∃ p : Program, ks <+: p.kinds ∧ ks ≠ p.kinds

theorem begins_nil : Begins [] := by
  refine ⟨action .move, List.nil_prefix, ?_⟩
  rw [kinds_eq_cons]
  exact (List.cons_ne_nil _ _).symm

theorem exists_of_children (k : Kind) {ps : List Program} (h : ps.length = k.arity) :
    ∃ p : Program, p.kind = k ∧ p.children = ps := by
  match k, ps, h with
  | .action a, [], _ => exact ⟨action a, rfl, rfl⟩
  | .ifFood, [p, q], _ => exact ⟨ifFood p q, rfl, rfl⟩
  | .seq2, [p, q], _ => exact ⟨seq2 p q, rfl, rfl⟩
  | .seq3, [p, q, r], _ => exact ⟨seq3 p q r, rfl, rfl⟩

/-- A branch, some of its children, and the beginning of the next child begin a program. -/
theorem Begins.node {ks : List Kind} (h : Begins ks) {k : Kind} {ps : List Program}
    (hps : ps.length < k.arity) : Begins (k :: (ps.flatMap kinds ++ ks)) := by
  obtain ⟨next, hks, hne⟩ := h
  -- any children will do for the rest
  have hlength : (ps ++ next :: List.replicate (k.arity - ps.length - 1) (action .move)).length =
      k.arity := by
    rw [List.length_append, List.length_cons, List.length_replicate]
    omega
  obtain ⟨p, rfl, hp⟩ := exists_of_children k hlength
  have hkinds : p.kinds = p.kind :: (ps.flatMap kinds ++ (next.kinds ++
      (List.replicate (p.kind.arity - ps.length - 1) (action .move)).flatMap kinds)) := by
    rw [kinds_eq_cons p, hp, List.flatMap_append, List.flatMap_cons]
  obtain ⟨more, hmore⟩ := hks
  refine ⟨p, ?_, ?_⟩
  · rw [hkinds, ← hmore]
    exact ⟨_, by simp only [List.cons_append, List.append_assoc]; rfl⟩
  · intro heq
    rw [hkinds, ← hmore] at heq
    simp only [List.append_assoc, List.cons.injEq, List.append_cancel_left_eq, true_and,
      List.self_eq_append_right, List.append_eq_nil_iff] at heq
    rw [heq.1, List.append_nil] at hmore
    exact hne hmore

end Program

open Program (Begins)

/-! ## Where a reader of trees fails -/

variable {ε τ : Type} {ts : List τ} {e : ε}

/-- Children are read from left to right until one cannot be read. -/
theorem Reads.build_error {child : StateT (List τ) (Except ε) Program} {write : Program → List τ}
    {admits : Program → Prop} (h : Reads child write admits) {k : Kind}
    (hr : (k.build child).run ts = .error e) :
    ∃ (ps : List Program) (rest : List τ), ps.length < k.arity ∧ ts = ps.flatMap write ++ rest ∧
      child.run rest = .error e := by
  have one : ∀ {ts p rest}, child.run ts = .ok (p, rest) → ts = write p ++ rest :=
    fun hp => (h.of_run hp).2
  cases k with
  | action a => cases hr
  | ifFood =>
    simp only [Kind.build, run_bind_eq_error] at hr
    rcases hr with hr | ⟨p, s₁, h₁, hr | ⟨q, s₂, h₂, hr⟩⟩
    · exact ⟨[], ts, by simp [Kind.arity], rfl, hr⟩
    · exact ⟨[p], s₁, by simp [Kind.arity], by simp [one h₁], hr⟩
    · cases hr
  | seq2 =>
    simp only [Kind.build, run_bind_eq_error] at hr
    rcases hr with hr | ⟨p, s₁, h₁, hr | ⟨q, s₂, h₂, hr⟩⟩
    · exact ⟨[], ts, by simp [Kind.arity], rfl, hr⟩
    · exact ⟨[p], s₁, by simp [Kind.arity], by simp [one h₁], hr⟩
    · cases hr
  | seq3 =>
    simp only [Kind.build, run_bind_eq_error] at hr
    rcases hr with hr | ⟨p, s₁, h₁, hr | ⟨q, s₂, h₂, hr | ⟨r, s₃, h₃, hr⟩⟩⟩
    · exact ⟨[], ts, by simp [Kind.arity], rfl, hr⟩
    · exact ⟨[p], s₁, by simp [Kind.arity], by simp [one h₁], hr⟩
    · exact ⟨[p, q], s₂, by simp [Kind.arity], by simp [one h₁, one h₂], hr⟩
    · cases hr

/-- A reader of programs that asks for a kind and then for its children fails where no kind
can be read, and what it has read until then begins a program. With as much fuel as there
are items it does not run out of fuel before. -/
theorem Reads.tree_error {kind : StateT (List τ) (Except ε) Kind} {mark : Kind → List τ}
    {known : Kind → Prop} (hk : Reads kind mark known) (hmark : ∀ k, mark k ≠ [])
    {tree : Nat → StateT (List τ) (Except ε) Program}
    (hzero : ∀ ts p rest, (tree 0).run ts ≠ .ok (p, rest))
    (hempty : ∀ e, (tree 0).run [] = .error e → kind.run [] = .error e)
    (hsucc : ∀ n, tree (n + 1) = kind >>= fun k => k.build (tree n)) {n : Nat}
    (hn : ts.length ≤ n) (hr : (tree n).run ts = .error e) :
    ∃ ks tail, Begins ks ∧ ts = ks.flatMap mark ++ tail ∧ kind.run tail = .error e := by
  induction n generalizing ts with
  | zero =>
    obtain rfl := List.length_eq_zero_iff.mp (Nat.le_zero.mp hn)
    exact ⟨[], [], Program.begins_nil, rfl, hempty e hr⟩
  | succ n ih =>
    rw [hsucc] at hr
    rcases run_bind_eq_error.mp hr with hr | ⟨k, rest, h₁, h₂⟩
    · exact ⟨[], ts, Program.begins_nil, rfl, hr⟩
    · obtain ⟨-, rfl⟩ := hk.of_run h₁
      obtain ⟨ps, rest', hps, rfl, hc⟩ := (Reads.tree hk hzero hsucc n).build_error h₂
      have hpos := List.length_pos_iff.mpr (hmark k)
      rw [List.length_append, List.length_append] at hn
      obtain ⟨ks, tail, hks, rfl, htail⟩ := ih (by omega) hc
      refine ⟨k :: (ps.flatMap Program.kinds ++ ks), tail, hks.node hps, ?_, htail⟩
      rw [List.flatMap_cons, List.flatMap_append, List.flatMap_assoc]
      simp only [List.append_assoc]

/-! ## Bytes -/

namespace Bytes

theorem length_lt_of_split {n : Nat} {bs : List UInt8} (h : split n bs = none) :
    bs.length < n := by
  by_cases hn : n ≤ bs.length
  · have hs : split n bs = some (bs.take n, bs.drop n) :=
      split_eq_some_iff.mpr ⟨List.length_take_of_le hn, (List.take_append_drop n bs).symm⟩
    rw [hs] at h
    cases h
  · exact Nat.lt_of_not_le hn

theorem Decoder.number_error {width : Nat} {bs : List UInt8} {e : DecodeError}
    (h : (number width).run bs = .error e) : bs.length < width ∧ e = .endOfBytes := by
  rw [number, run_map_eq_error, take, run_get_bind] at h
  cases hs : split width bs with
  | some r =>
    rw [hs] at h
    cases h
  | none =>
    rw [hs] at h
    exact ⟨length_lt_of_split hs, (Except.error.inj h).symm⟩

end Bytes

theorem Kind.number_eq_idxOf (k : Kind) : k.number = all.idxOf k := by
  cases k with
  | action a => cases a <;> rfl
  | _ => rfl

namespace Program

open Bytes (DecodeError littleEndian)

/-- What keeps a kind from being read, and the error that says so: the bytes end inside a
number, or the number is beyond those of the kinds. -/
inductive Stuck : List UInt8 → DecodeError → Prop
  | truncated {bs : List UInt8} (h : bs.length < 4) : Stuck bs .endOfBytes
  | unknown {n : Nat} (h : Kind.all.length ≤ n) (rest : List UInt8) :
    Stuck (littleEndian 4 n ++ rest) (.unknownVariant n Kind.all.length)

theorem stuck_of_decodeKind {bs : List UInt8} {e : DecodeError}
    (h : decodeKind.run bs = .error e) : Stuck bs e := by
  rcases run_bind_eq_error.mp h with h | ⟨n, rest, h₁, h₂⟩
  · obtain ⟨hlength, rfl⟩ := Bytes.Decoder.number_error h
    exact .truncated hlength
  · obtain ⟨-, rfl⟩ := (Bytes.Decoder.reads_number 4).of_run h₁
    cases hn : Kind.all[n]? with
    | some k =>
      rw [hn] at h₂
      cases h₂
    | none =>
      rw [hn] at h₂
      obtain rfl := Except.error.inj h₂
      exact .unknown (List.getElem?_eq_none_iff.mp hn) rest

theorem encodeKind_ne_nil (k : Kind) : encodeKind k ≠ [] := by
  intro h
  have hl := Bytes.length_littleEndian 4 k.number
  rw [← encodeKind, h] at hl
  cases hl

/-- Decoding ignores what follows a program. -/
theorem decode_eq_ok {bs : List UInt8} {p : Program} : decode bs = .ok p ↔ p.encode <+: bs := by
  rw [decode, run'_eq_ok]
  constructor
  · rintro ⟨rest, h⟩
    exact ⟨rest, (reads_decoder.of_run h).2.symm⟩
  · rintro ⟨rest, rfl⟩
    exact ⟨rest, reads_decoder.run_write trivial rest⟩

/-- Bytes that are refused begin with the kinds of an incomplete program, and after them no
kind can be read. -/
theorem decode_eq_error {bs : List UInt8} {e : DecodeError} (h : decode bs = .error e) :
    ∃ ks tail, Begins ks ∧ bs = ks.flatMap encodeKind ++ tail ∧ Stuck tail e := by
  have hr : (decodeTree bs.length).run bs = .error e := run'_eq_error.mp h
  obtain ⟨ks, tail, hks, hbs, hk⟩ := reads_kind.tree_error encodeKind_ne_nil
    (by intro ts p rest h; cases h) (by intro e h; cases h; rfl) (fun _ => rfl) (Nat.le_refl _) hr
  exact ⟨ks, tail, hks, hbs, stuck_of_decodeKind hk⟩

theorem eq_of_encode_prefix {p q : Program} (h : p.encode <+: q.encode) : p = q := by
  have hp := decode_eq_ok.mpr h
  rw [decode_eq_ok.mpr (List.prefix_refl q.encode)] at hp
  exact (Except.ok.inj hp).symm

/-- The bytes of programs are a code that is free of prefixes, and decoding inverts it. A
program is written as the places of its kinds among all kinds, in pre-order and with four
bytes each, and bytes are read as a program just if they begin with its bytes. All others
are refused, because they end inside a number, or a number names no kind, before the first
program in them is complete. -/
theorem decode_prefix_code :
    (∀ p : Program, p.encode = p.kinds.flatMap (fun k => littleEndian 4 (Kind.all.idxOf k)) ∧
      p.encode.length = 4 * p.size) ∧
    (∀ p q : Program, p.encode <+: q.encode → p = q) ∧
    (∀ bs p, decode bs = .ok p ↔ p.encode <+: bs) ∧
    ∀ bs, (¬∃ p : Program, p.encode <+: bs) ↔
      ∃ e ks tail, decode bs = .error e ∧ Begins ks ∧ bs = ks.flatMap encodeKind ++ tail ∧
        Stuck tail e := by
  refine ⟨fun p => ⟨?_, p.length_encode⟩, fun _ _ => eq_of_encode_prefix, fun _ _ => decode_eq_ok,
    fun bs => ⟨fun hnone => ?_, ?_⟩⟩
  · rw [encode_eq_flatMap]
    exact congrArg p.kinds.flatMap (funext fun k => by rw [encodeKind, k.number_eq_idxOf])
  · cases h : decode bs with
    | ok p => exact absurd ⟨p, decode_eq_ok.mp h⟩ hnone
    | error e =>
      obtain ⟨ks, tail, hks, hbs, htail⟩ := decode_eq_error h
      exact ⟨e, ks, tail, rfl, hks, hbs, htail⟩
  · rintro ⟨e, ks, tail, h, -⟩ ⟨p, hp⟩
    rw [decode_eq_ok.mpr hp] at h
    cases h

end Program
end AntTrail
