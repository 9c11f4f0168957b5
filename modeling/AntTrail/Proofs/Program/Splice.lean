import AntTrail.Proofs.Program.Surroundings

/-!
# Replacing is a splice

The kinds of a subtree stand together in pre-order, from the number of its root on. Putting
another subtree in its place exchanges this piece of the list and nothing else
(`Way.take_kinds_fill`, `Way.drop_kinds_fill`), and the way to the place stays the same, so
that putting the old subtree back undoes it (`replace_splices`).
-/
namespace AntTrail.Program

namespace Way

theorem take_kinds_fill (way : Way) (p : Program) :
    (way.fill p).kinds.take way.node = way.kindsBefore := by
  rw [kinds_fill, List.take_left' way.length_kindsBefore]

theorem drop_kinds_fill (way : Way) (p : Program) :
    (way.fill p).kinds.drop (way.node + p.size) = way.kindsAfter := by
  rw [kinds_fill, ← List.append_assoc, List.drop_left' (by simp)]

theorem replace_fill (way : Way) (p new : Program) :
    (way.fill p).replace way.node new = (some p, way.fill new) := by
  rw [replace, replace?, focus?_fill]
  rfl

end Way

/-- Without a node of this number nothing is replaced. -/
theorem replace_of_size_le {p : Program} {i : Nat} (h : p.size ≤ i) (new : Program) :
    p.replace i new = (none, p) := by
  have hnone : p.focus? i = none := by
    rw [← Option.not_isSome_iff_eq_none, isSome_focus?_iff]
    omega
  rw [replace, replace?, hnone]
  rfl

/-- Replacing a subtree is a splice of the kinds in pre-order. Where there is no node `i` the
program stays as it is. Otherwise the subtree at node `i` is handed back; its kinds give way
to those of the new one, which is the subtree at node `i` from then on; the subtrees at
earlier nodes are the same but for those above node `i`; and replacing once more, with the
old subtree, hands back the new one and restores the program. -/
theorem replace_splices (p new : Program) (i : Nat) :
    (p.size ≤ i → p.replace i new = (none, p)) ∧
    (i < p.size → ∃ old q, p.replace i new = (some old, q) ∧ p.subtree? i = some old ∧
      q.kinds = p.kinds.take i ++ new.kinds ++ p.kinds.drop (i + old.size) ∧
      q.subtree? i = some new ∧
      (∀ j, j < i → ¬p.Above j i → q.subtree? j = p.subtree? j) ∧
      q.replace i old = (some new, p)) := by
  refine ⟨fun h => replace_of_size_le h new, fun hi => ?_⟩
  obtain ⟨way, old, rfl, rfl⟩ := exists_fill hi
  refine ⟨old, way.fill new, way.replace_fill old new, way.subtree?_fill old, ?_,
    way.subtree?_fill new, fun j hj h => Way.subtree?_fill_of_not_above hj h,
    way.replace_fill new old⟩
  rw [way.take_kinds_fill, way.drop_kinds_fill, way.kinds_fill, List.append_assoc]

end AntTrail.Program
