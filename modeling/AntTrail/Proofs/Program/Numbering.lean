import AntTrail.Proofs.Program.Notation
import AntTrail.Proofs.Program.Splice

/-!
# One numbering of nodes

Nodes are counted in three ways: by a walk with a stack of the subtrees still to be visited,
by a search that skips children by their sizes, and by the same search with the surroundings
of what it finds. All three follow the list `preorder`. For the walk this is seen on any
stack (`Walk.toList_eq_flatMap`), whose subtrees are visited one after the other. The list
also says which program it is of, even by the kinds alone (`kinds_injective`).
-/
namespace AntTrail

/-- The walk comes past the subtrees of all that is on the stack, from the top down. -/
theorem Walk.toList_eq_flatMap (w : Walk) : w.toList = w.stack.flatMap Program.preorder := by
  fun_induction Walk.toList w with
  | case1 w h =>
    obtain ⟨stack⟩ := w
    cases stack with
    | nil => rfl
    | cons p rest => simp [Walk.next?] at h
  | case2 w p w' h ih =>
    obtain ⟨stack⟩ := w
    cases stack with
    | nil => simp [Walk.next?] at h
    | cons q rest =>
      simp only [Walk.next?, Option.some.injEq, Prod.mk.injEq] at h
      obtain ⟨rfl, rfl⟩ := h
      -- the children on the stack are what the root leaves of its own list
      rw [ih, List.flatMap_append, List.flatMap_cons, Program.preorder_eq_cons q, List.cons_append]

namespace Program

theorem toList_ofProgram (p : Program) : (Walk.ofProgram p).toList = p.preorder := by
  simp [Walk.toList_eq_flatMap, Walk.ofProgram]

/-- A subtree is missing just where the numbers have come to an end. -/
theorem subtree?_eq_none_iff {p : Program} {i : Nat} : p.subtree? i = none ↔ p.size ≤ i := by
  rw [subtree?_eq_getElem?, List.getElem?_eq_none_iff, length_preorder]

/-- What stands at a node, and nothing else, is exchanged when its focus is plugged. -/
theorem plug_of_focus? {p : Program} {i : Nat} {f : Focus} (h : p.focus? i = some f) :
    f.plug f.subtree = p ∧ ∀ new, (f.plug new).subtree? i = some new ∧
      (f.plug new).kinds = p.kinds.take i ++ new.kinds ++ p.kinds.drop (i + f.subtree.size) := by
  have hi : i < p.size := by
    rw [← isSome_focus?_iff, h]
    rfl
  obtain ⟨way, s, rfl, rfl⟩ := exists_fill hi
  rw [way.focus?_fill] at h
  obtain rfl := Option.some.inj h
  refine ⟨rfl, fun new => ⟨way.subtree?_fill new, ?_⟩⟩
  rw [way.take_kinds_fill, way.drop_kinds_fill, way.kinds_fill, List.append_assoc]

/-- The kinds in pre-order tell programs apart: a kind says how many children follow. -/
theorem kinds_injective : Function.Injective kinds := by
  intro p q h
  apply polishText_injective
  rw [polishText, polishText, polishTokens_eq_map, polishTokens_eq_map, h]

/-- All ways of counting nodes agree. The walk visits as many subtrees as there are nodes, and
the `i`-th of them is the one that is found by skipping sizes; both are missing just if there
is no node `i`. The focus at node `i` is on the same subtree, and in the same place: plugged
with that subtree it gives the program itself, and with any other it puts the other at node
`i` and changes the kinds there only. The kinds in the order of the walk belong to no other
program. -/
theorem numberings_agree (p : Program) :
    (Walk.ofProgram p).toList.length = p.size ∧
    (∀ i, p.subtree? i = (Walk.ofProgram p).toList[i]? ∧
      (p.subtree? i = none ↔ p.size ≤ i) ∧
      ((Walk.ofProgram p).toList[i]? = none ↔ p.size ≤ i)) ∧
    (∀ i, (p.focus? i).map Focus.subtree = p.subtree? i ∧
      ∀ f, p.focus? i = some f → f.plug f.subtree = p ∧ ∀ new, (f.plug new).subtree? i = some new ∧
        (f.plug new).kinds = p.kinds.take i ++ new.kinds ++ p.kinds.drop (i + f.subtree.size)) ∧
    p.kinds = (Walk.ofProgram p).toList.map kind ∧
    ∀ q : Program, q.kinds = p.kinds → q = p := by
  rw [toList_ofProgram]
  refine ⟨p.length_preorder, fun i => ⟨p.subtree?_eq_getElem? i, subtree?_eq_none_iff, ?_⟩,
    fun i => ⟨p.map_subtree_focus? i, fun f h => plug_of_focus? h⟩, rfl,
    fun q h => kinds_injective h⟩
  rw [← subtree?_eq_getElem?, subtree?_eq_none_iff]

/-- A branch below the first child of another: the walk comes back up to the second child. -/
example : (Walk.ofProgram (seq2 (ifFood (action .move) (action .turnLeft)) (action .turnRight))).toList
    = [seq2 (ifFood (action .move) (action .turnLeft)) (action .turnRight),
      ifFood (action .move) (action .turnLeft), action .move, action .turnLeft,
      action .turnRight] := by
  rw [toList_ofProgram]
  rfl

end Program
end AntTrail
