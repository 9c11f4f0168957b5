import AntTrail.Program
import AntTrail.Proofs.Reading

/-!
# Programs as trees

What a program is to a recursion: a kind and a list of children. Tokens and bytes
write a program alike, the kinds in pre-order, each in its own form, and both are
read by asking for a kind and then for as many children as it demands.
`Reads.tree` says for both at once that this reads back what was written and
nothing else.
-/
namespace AntTrail

namespace Program

/-- Pre-order: the root, then the children from left to right. -/
theorem kinds_eq_cons (p : Program) : p.kinds = p.kind :: p.children.flatMap kinds := by
  unfold kinds
  cases p <;> simp [preorder, children]

theorem height_lt_succ_iff (p : Program) (n : Nat) :
    p.height < n + 1 ↔ ∀ q ∈ p.children, q.height < n := by
  cases p with
  | action a => simp [height, children]
  | _ =>
    simp only [height, children, List.forall_mem_cons, List.not_mem_nil, false_implies,
      implies_true, and_true]
    omega

theorem height_lt_size (p : Program) : p.height < p.size := by
  induction p with
  | action a => simp [height, size]
  | ifFood p q ihp ihq => simp only [height, size]; omega
  | seq2 p q ihp ihq => simp only [height, size]; omega
  | seq3 p q r ihp ihq ihr => simp only [height, size]; omega

end Program

variable {ε τ : Type}

/-- A branch is read child by child, from left to right. -/
theorem Reads.build {child : StateT (List τ) (Except ε) Program} {write : Program → List τ}
    {admits : Program → Prop} (h : Reads child write admits) (k : Kind) :
    Reads (k.build child) (fun p => p.children.flatMap write)
      (fun p => p.kind = k ∧ ∀ q ∈ p.children, admits q) where
  run_write := by
    rintro p ⟨rfl, hq⟩ rest
    have hc : ∀ q ∈ p.children, ∀ r, child.run (write q ++ r) = .ok (q, r) :=
      fun q m r => h.run_write (hq q m) r
    cases p with
    | action a => rfl
    | ifFood p q =>
      simp only [Program.kind, Kind.build, Program.children, List.flatMap_cons, List.flatMap_nil,
        List.append_assoc]
      rw [run_bind_ok (hc p (by simp [Program.children]) _),
        run_bind_ok (hc q (by simp [Program.children]) _)]
      rfl
    | seq2 p q =>
      simp only [Program.kind, Kind.build, Program.children, List.flatMap_cons, List.flatMap_nil,
        List.append_assoc]
      rw [run_bind_ok (hc p (by simp [Program.children]) _),
        run_bind_ok (hc q (by simp [Program.children]) _)]
      rfl
    | seq3 p q r =>
      simp only [Program.kind, Kind.build, Program.children, List.flatMap_cons, List.flatMap_nil,
        List.append_assoc]
      rw [run_bind_ok (hc p (by simp [Program.children]) _),
        run_bind_ok (hc q (by simp [Program.children]) _),
        run_bind_ok (hc r (by simp [Program.children]) _)]
      rfl
  of_run := by
    intro ts p rest hr
    cases k with
    | action a =>
      obtain ⟨rfl, rfl⟩ := run_pure_eq_ok.mp hr
      simp [Program.kind, Program.children]
    | ifFood =>
      simp only [Kind.build, run_bind_eq_ok, run_pure_eq_ok] at hr
      obtain ⟨q₁, s₁, h₁, q₂, s₂, h₂, rfl, rfl⟩ := hr
      obtain ⟨a₁, rfl⟩ := h.of_run h₁
      obtain ⟨a₂, rfl⟩ := h.of_run h₂
      simp [Program.kind, Program.children, a₁, a₂]
    | seq2 =>
      simp only [Kind.build, run_bind_eq_ok, run_pure_eq_ok] at hr
      obtain ⟨q₁, s₁, h₁, q₂, s₂, h₂, rfl, rfl⟩ := hr
      obtain ⟨a₁, rfl⟩ := h.of_run h₁
      obtain ⟨a₂, rfl⟩ := h.of_run h₂
      simp [Program.kind, Program.children, a₁, a₂]
    | seq3 =>
      simp only [Kind.build, run_bind_eq_ok, run_pure_eq_ok] at hr
      obtain ⟨q₁, s₁, h₁, q₂, s₂, h₂, q₃, s₃, h₃, rfl, rfl⟩ := hr
      obtain ⟨a₁, rfl⟩ := h.of_run h₁
      obtain ⟨a₂, rfl⟩ := h.of_run h₂
      obtain ⟨a₃, rfl⟩ := h.of_run h₃
      simp [Program.kind, Program.children, a₁, a₂, a₃]

/-- A node is read as its kind and then its children. -/
theorem Reads.node {kind : StateT (List τ) (Except ε) Kind} {mark : Kind → List τ}
    {known : Kind → Prop} (hk : Reads kind mark known)
    {child : StateT (List τ) (Except ε) Program} {write : Program → List τ}
    {admits : Program → Prop} (hc : Reads child write admits) :
    Reads (kind >>= fun k => k.build child)
      (fun p => mark p.kind ++ p.children.flatMap write)
      (fun p => known p.kind ∧ ∀ q ∈ p.children, admits q) where
  run_write := by
    rintro p ⟨hp, hq⟩ rest
    rw [List.append_assoc, run_bind_ok (hk.run_write hp _)]
    exact (hc.build p.kind).run_write ⟨rfl, hq⟩ rest
  of_run := by
    intro ts p rest hr
    obtain ⟨k, s₁, h₁, h₂⟩ := run_bind_eq_ok.mp hr
    obtain ⟨hp, rfl⟩ := hk.of_run h₁
    obtain ⟨⟨rfl, hq⟩, rfl⟩ := (hc.build k).of_run h₂
    exact ⟨⟨hp, hq⟩, (List.append_assoc ..).symm⟩

/-- A reader of programs that asks for a kind and then for its children reads the
kinds in pre-order. The fuel bounds the levels of the tree, not its nodes. -/
theorem Reads.tree {kind : StateT (List τ) (Except ε) Kind} {mark : Kind → List τ}
    {known : Kind → Prop} (hk : Reads kind mark known)
    {tree : Nat → StateT (List τ) (Except ε) Program}
    (hzero : ∀ ts p rest, (tree 0).run ts ≠ .ok (p, rest))
    (hsucc : ∀ n, tree (n + 1) = kind >>= fun k => k.build (tree n)) (n : Nat) :
    Reads (tree n) (fun p => p.kinds.flatMap mark)
      (fun p => p.height < n ∧ ∀ k ∈ p.kinds, known k) := by
  induction n with
  | zero =>
    constructor
    · rintro p ⟨hp, -⟩
      exact absurd hp (Nat.not_lt_zero _)
    · intro ts p rest hr
      exact absurd hr (hzero ts p rest)
  | succ n ih =>
    -- the two sides of the node law, with the recursion of `kinds` folded back
    have hw : ∀ p : Program, p.kinds.flatMap mark =
        mark p.kind ++ p.children.flatMap fun q => q.kinds.flatMap mark := by
      intro p
      rw [Program.kinds_eq_cons, List.flatMap_cons, List.flatMap_assoc]
    have ha : ∀ p : Program, (p.height < n + 1 ∧ ∀ k ∈ p.kinds, known k) ↔
        known p.kind ∧ ∀ q ∈ p.children, q.height < n ∧ ∀ k ∈ q.kinds, known k := by
      intro p
      rw [Program.height_lt_succ_iff, Program.kinds_eq_cons]
      simp only [List.forall_mem_cons, List.mem_flatMap]
      grind
    have hn := Reads.node hk ih
    rw [← hsucc n] at hn
    constructor
    · intro p hp rest
      show (tree (n + 1)).run (p.kinds.flatMap mark ++ rest) = _
      rw [hw]
      exact hn.run_write ((ha p).mp hp) rest
    · intro ts p rest hr
      obtain ⟨hp, rfl⟩ := hn.of_run hr
      exact ⟨(ha p).mpr hp, by rw [hw]⟩

end AntTrail
