import AntTrail.Proofs.Program.Exchange
import AntTrail.Proofs.Program.Splice

/-!
# Exchange and crossover are exact

An exchange takes place just if both nodes are there, and it takes one more to undo it: each
number still names the same place after the programs have changed size below it
(`exchange_involutive`). Crossover is one exchange below both roots, at the two nodes that
are drawn (`crossover_exchanges`), so no kind of node is lost or added.
-/
namespace AntTrail.Program

variable {p q : Program} {i j : Nat}

/-! ## Exchange -/

theorem exchange_of_not (h : ¬(i < p.size ∧ j < q.size)) : p.exchange i q j = (false, p, q) := by
  have hnone : p.exchange? i q j = none := by
    rw [← isSome_focus?_iff, ← isSome_focus?_iff] at h
    unfold exchange?
    cases hf : p.focus? i with
    | none => rfl
    | some f => cases hg : q.focus? j with
      | none => rfl
      | some g => exact absurd ⟨by rw [hf]; rfl, by rw [hg]; rfl⟩ h
  rw [exchange, hnone]

theorem Way.exchange_fill (way way' : Way) (p q : Program) :
    (way.fill p).exchange way.node (way'.fill q) way'.node =
      (true, way.fill q, way'.fill p) := by
  rw [exchange, exchange?_fill]

/-- An exchange is done as a whole or not at all, and undoes itself. It takes place just if
both programs have the node, be it the root; otherwise both stay as they are. When it takes
place each of the two subtrees is found where the other one was, there are as many nodes as
before, and the same exchange done again restores both programs. -/
theorem exchange_involutive (p q : Program) (i j : Nat) :
    ((p.exchange i q j).1 = true ↔ i < p.size ∧ j < q.size) ∧
    ((p.exchange i q j).1 = false → (p.exchange i q j).2 = (p, q)) ∧
    ∀ a b, p.exchange i q j = (true, a, b) →
      (∃ s t, p.subtree? i = some s ∧ q.subtree? j = some t ∧
        a.subtree? i = some t ∧ b.subtree? j = some s) ∧
      a.size + b.size = p.size + q.size ∧ a.exchange i b j = (true, p, q) := by
  by_cases h : i < p.size ∧ j < q.size
  · obtain ⟨way, s, rfl, rfl⟩ := exists_fill h.1
    obtain ⟨way', t, rfl, rfl⟩ := exists_fill h.2
    rw [way.exchange_fill way' s t]
    refine ⟨⟨fun _ => h, fun _ => rfl⟩, nofun, ?_⟩
    rintro _ _ ⟨⟩
    refine ⟨⟨s, t, way.subtree?_fill s, way'.subtree?_fill t, way.subtree?_fill t,
      way'.subtree?_fill s⟩, ?_, way.exchange_fill way' t s⟩
    rw [way.size_fill, way'.size_fill, way.size_fill, way'.size_fill]
    omega
  · rw [exchange_of_not h]
    exact ⟨⟨nofun, fun hij => absurd hij h⟩, fun _ => rfl, nofun⟩

/-! ## Crossover -/

theorem isLeaf_iff_size_lt : p.isLeaf ↔ p.size < 2 := by
  cases p with
  | action a => exact iff_of_true rfl Nat.one_lt_two
  | ifFood q r =>
    have hq := q.size_pos
    exact iff_of_false Bool.false_ne_true (by rw [size]; omega)
  | seq2 q r =>
    have hq := q.size_pos
    exact iff_of_false Bool.false_ne_true (by rw [size]; omega)
  | seq3 q r s =>
    have hq := q.size_pos
    exact iff_of_false Bool.false_ne_true (by rw [size]; omega)

/-- The kinds that an exchange takes from the one program it adds to the other. -/
theorem Way.kinds_exchange_perm (way way' : Way) (p q : Program) :
    ((way.fill q).kinds ++ (way'.fill p).kinds).Perm
      ((way.fill p).kinds ++ (way'.fill q).kinds) := by
  rw [List.perm_iff_count]
  intro k
  simp only [kinds_fill, List.count_append]
  omega

theorem run_crossover_of_leaf (h : p.isLeaf ∨ q.isLeaf) (s : Draw.Source) :
    (p.crossover q).run s = .ok ((p, q), s) := by
  rw [isLeaf_iff_size_lt, isLeaf_iff_size_lt] at h
  rw [crossover, if_pos h]
  rfl

/-- Otherwise the two draws decide what the children are. -/
theorem run_crossover {s s₁ s₂ : Draw.Source} (hp : p.isLeaf = false) (hq : q.isLeaf = false)
    (hi : (Draw.between 1 p.size).run s = .ok (i, s₁))
    (hj : (Draw.between 1 q.size).run s₁ = .ok (j, s₂)) :
    (p.crossover q).run s = .ok ((p.exchange? i q j).getD (p, q), s₂) := by
  have hsize : ¬(p.size < 2 ∨ q.size < 2) := by
    rw [← isLeaf_iff_size_lt, ← isLeaf_iff_size_lt, hp, hq]
    simp
  rw [crossover, if_neg hsize, run_bind_ok hi, run_bind_ok hj]
  rfl

/-- Crossover is one exchange of subtrees below the roots. With a leaf among the parents they
are their own children, and nothing is drawn. Otherwise two nodes are drawn, one of each
parent and none of them a root, and each child is its parent with the subtree at its node
replaced by that at the node of the other parent. So the kinds of the roots stay, all
kinds of node occur as often in the children as in the parents, and no child of an exchange
has more than the levels of both parents but one. Nothing but a draw that never ends keeps
parents from having children. -/
theorem crossover_exchanges (p q : Program) :
    (p.isLeaf ∨ q.isLeaf → ∀ s, (p.crossover q).run s = .ok ((p, q), s)) ∧
    (p.isLeaf = false → q.isLeaf = false → ∀ s i s₁ j s₂,
      (Draw.between 1 p.size).run s = .ok (i, s₁) →
      (Draw.between 1 q.size).run s₁ = .ok (j, s₂) →
      (1 ≤ i ∧ i < p.size) ∧ (1 ≤ j ∧ j < q.size) ∧
      ∃ t u a b, p.subtree? i = some t ∧ q.subtree? j = some u ∧
        p.replace i u = (some t, a) ∧ q.replace j t = (some u, b) ∧
        (p.crossover q).run s = .ok ((a, b), s₂) ∧
        a.kind = p.kind ∧ b.kind = q.kind ∧
        (a.kinds ++ b.kinds).Perm (p.kinds ++ q.kinds) ∧ a.size + b.size = p.size + q.size ∧
        a.height ≤ p.height + q.height - 1 ∧ b.height ≤ p.height + q.height - 1) ∧
    ∀ s e, (p.crossover q).run s = .error e → e = .endlessDraw := by
  refine ⟨run_crossover_of_leaf, fun hp hq s i s₁ j s₂ hi hj => ?_, unfailing_crossover p q⟩
  have hrange := Draw.ensures_between 1 p.size _ _ _ hi
  have hrange' := Draw.ensures_between 1 q.size _ _ _ hj
  refine ⟨hrange, hrange', ?_⟩
  have hrun := run_crossover hp hq hi hj
  obtain ⟨way, t, rfl, rfl⟩ := exists_fill hrange.2
  obtain ⟨way', u, rfl, rfl⟩ := exists_fill hrange'.2
  rw [way.exchange?_fill way' t u] at hrun
  have hperm := way.kinds_exchange_perm way' t u
  have hsize := hperm.length_eq
  simp only [List.length_append, length_kinds] at hsize
  have ha := Way.height_exchange hrange.1 hrange'.1 t u
  have hb := Way.height_exchange hrange'.1 hrange.1 u t
  exact ⟨t, u, way.fill u, way'.fill t, way.subtree?_fill t, way'.subtree?_fill u,
    way.replace_fill t u, way'.replace_fill u t, hrun, Way.kind_fill hrange.1 t u,
    Way.kind_fill hrange'.1 u t, hperm, hsize, by omega, by omega⟩

/-- Two parents of which the last nodes are drawn. -/
theorem crossover_exchanges_last :
    ∃ a b s, (crossover (.seq2 (.action .move) (.action .turnLeft))
        (.ifFood (.action .turnRight) (.seq2 (.action .move) (.action .move)))).run
          (Draw.Source.ofSeed 2) = .ok ((a, b), s) ∧
      a = .seq2 (.action .move) (.action .move) ∧
      b = .ifFood (.action .turnRight) (.seq2 (.action .move) (.action .turnLeft)) ∧
      a.size + b.size = 8 ∧ a.height ≤ 2 ∧ b.height ≤ 2 := by
  have hi : ((Draw.between 1 3).run (.ofSeed 2) >>= fun r => .ok r.1) = .ok 2 :=
    eq_ok_of_toOption (by decide +kernel)
  have hj : ((Draw.between 1 3 >>= fun _ => Draw.between 1 5).run (.ofSeed 2) >>=
      fun r => .ok r.1) = .ok 4 := eq_ok_of_toOption (by decide +kernel)
  obtain ⟨⟨_, s₁⟩, hri, ⟨⟩⟩ := bind_eq_ok.mp hi
  rw [run_bind_ok hri] at hj
  obtain ⟨⟨_, s₂⟩, hrj, ⟨⟩⟩ := bind_eq_ok.mp hj
  obtain ⟨-, hboth, -⟩ := crossover_exchanges (.seq2 (.action .move) (.action .turnLeft))
    (.ifFood (.action .turnRight) (.seq2 (.action .move) (.action .move)))
  obtain ⟨-, -, t, u, a, b, ht, hu, ha, hb, hrun, -, -, -, hsize, hha, hhb⟩ :=
    hboth rfl rfl _ 2 s₁ 4 s₂ hri hrj
  obtain rfl := Option.some.inj ht
  obtain rfl := Option.some.inj hu
  exact ⟨a, b, s₂, hrun, (congrArg Prod.snd ha).symm, (congrArg Prod.snd hb).symm, hsize, hha, hhb⟩

end AntTrail.Program
