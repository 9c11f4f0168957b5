import AntTrail.Program.Subtree
import AntTrail.Proofs.Program.Tree

/-!
# What stands around a subtree

A node is reached from the root over a way: the branches above it, each without the child
that the way goes on to (`Frame`, `Way`). A way alone says which number the node at its end
has, whatever subtree stands there (`Way.focus?_fill`), and every node has one
(`exists_fill`). So the number still names the place after its subtree has been exchanged,
and the kinds before and after the subtree are those of the way (`Way.kinds_fill`).

Numbers are places in pre-order (`subtree?_eq_getElem?`). Another subtree at one node
changes no subtree before it but those that it is a part of (`Above`,
`Way.subtree?_fill_of_not_above`).
-/
namespace AntTrail.Program

/-! ## Numbers are places in pre-order -/

theorem preorder_eq_cons (p : Program) : p.preorder = p :: p.children.flatMap preorder := by
  cases p <;> simp [preorder, children]

/-- The search by sizes ends at the place in the list of all subtrees. -/
theorem subtree?_eq_getElem? (p : Program) (i : Nat) : p.subtree? i = p.preorder[i]? := by
  fun_induction subtree? p i with
  | case1 p => rw [preorder_eq_cons]; rfl
  | case2 a i => rfl
  | case3 p q i hi ih =>
    rw [ih, preorder, List.getElem?_cons_succ, List.getElem?_append_left (by simpa using hi)]
  | case4 p q i hi ih =>
    rw [ih, preorder, List.getElem?_cons_succ, List.getElem?_append_right (by simpa using hi),
      length_preorder]
  | case5 p q i hi ih =>
    rw [ih, preorder, List.getElem?_cons_succ, List.getElem?_append_left (by simpa using hi)]
  | case6 p q i hi ih =>
    rw [ih, preorder, List.getElem?_cons_succ, List.getElem?_append_right (by simpa using hi),
      length_preorder]
  | case7 p q r i hi ih =>
    rw [ih, preorder, List.getElem?_cons_succ, List.append_assoc,
      List.getElem?_append_left (by simpa using hi)]
  | case8 p q r i hi hj ih =>
    rw [ih, preorder, List.getElem?_cons_succ, List.append_assoc,
      List.getElem?_append_right (by simpa using hi), length_preorder,
      List.getElem?_append_left (by simpa using hj)]
  | case9 p q r i hi hj ih =>
    rw [ih, preorder, List.getElem?_cons_succ, List.append_assoc,
      List.getElem?_append_right (by simpa using hi), length_preorder,
      List.getElem?_append_right (by simpa using hj), length_preorder]

/-- A subtree is found alike with and without its surroundings. -/
theorem map_subtree_focus? (p : Program) (i : Nat) :
    (p.focus? i).map Focus.subtree = p.subtree? i := by
  fun_induction focus? p i with
  | case1 p => rw [subtree?]; rfl
  | case2 a i => rfl
  | case3 p q i hi ih => rw [Option.map_map, subtree?, if_pos hi, ← ih]; rfl
  | case4 p q i hi ih => rw [Option.map_map, subtree?, if_neg hi, ← ih]; rfl
  | case5 p q i hi ih => rw [Option.map_map, subtree?, if_pos hi, ← ih]; rfl
  | case6 p q i hi ih => rw [Option.map_map, subtree?, if_neg hi, ← ih]; rfl
  | case7 p q r i hi ih => rw [Option.map_map, subtree?, if_pos hi, ← ih]; rfl
  | case8 p q r i hi hj ih => rw [Option.map_map, subtree?, if_neg hi, if_pos hj, ← ih]; rfl
  | case9 p q r i hi hj ih => rw [Option.map_map, subtree?, if_neg hi, if_neg hj, ← ih]; rfl

/-- The nodes that can be brought into focus are those there are. -/
theorem isSome_focus?_iff {p : Program} {i : Nat} : (p.focus? i).isSome ↔ i < p.size := by
  rw [← Option.isSome_map (f := Focus.subtree), map_subtree_focus?, subtree?_eq_getElem?,
    isSome_getElem?, length_preorder]

/-! ## One branch -/

/-- A branch without one of its children. -/
inductive Frame where
  | ifFoodFirst (other : Program)
  | ifFoodSecond (food : Program)
  | seq2First (second : Program)
  | seq2Second (first : Program)
  | seq3First (second third : Program)
  | seq3Second (first third : Program)
  | seq3Third (first second : Program)

namespace Frame

/-- The branch with `p` for the child. -/
def wrap : Frame → Program → Program
  | ifFoodFirst q, p => .ifFood p q
  | ifFoodSecond q, p => .ifFood q p
  | seq2First q, p => .seq2 p q
  | seq2Second q, p => .seq2 q p
  | seq3First q r, p => .seq3 p q r
  | seq3Second q r, p => .seq3 q p r
  | seq3Third q r, p => .seq3 q r p

/-- The kind of the branch. -/
def kind : Frame → Kind
  | ifFoodFirst _ | ifFoodSecond _ => .ifFood
  | seq2First _ | seq2Second _ => .seq2
  | seq3First .. | seq3Second .. | seq3Third .. => .seq3

/-- The children before the one that is missing. -/
def before : Frame → List Program
  | ifFoodFirst _ | seq2First _ | seq3First .. => []
  | ifFoodSecond q | seq2Second q | seq3Second q _ => [q]
  | seq3Third q r => [q, r]

/-- The children after it. -/
def after : Frame → List Program
  | ifFoodSecond _ | seq2Second _ | seq3Third .. => []
  | ifFoodFirst q | seq2First q | seq3Second _ q => [q]
  | seq3First q r => [q, r]

/-- The number of nodes that come before the child: the root, and the children before it. -/
def offset (f : Frame) : Nat := f.before.foldr (fun p n => p.size + n) 1

variable {p : Program} {i j : Nat}

@[simp] theorem kind_wrap (f : Frame) (p : Program) : (f.wrap p).kind = f.kind := by
  cases f <;> rfl

@[simp] theorem children_wrap (f : Frame) (p : Program) :
    (f.wrap p).children = f.before ++ p :: f.after := by
  cases f <;> rfl

/-- Lists with an item for each node of a program, in a row for the children before. -/
theorem length_before_flatMap {α : Type} (f : Frame) {items : Program → List α}
    (h : ∀ p, (items p).length = p.size) : (f.before.flatMap items).length + 1 = f.offset := by
  cases f <;> simp [offset, before, h, Nat.add_assoc]

/-- Seen from the branch, what is in focus in the child lies one level further down. -/
theorem focus?_wrap (f : Frame) (hi : i < p.size) :
    (f.wrap p).focus? (i + f.offset) = (p.focus? i).map (·.under f.wrap) := by
  cases f with
  | ifFoodFirst q => exact if_pos hi
  | ifFoodSecond q =>
    show (ifFood q p).focus? (i + q.size + 1) = _
    rw [focus?, if_neg (by omega), Nat.add_sub_cancel]
    rfl
  | seq2First q => exact if_pos hi
  | seq2Second q =>
    show (seq2 q p).focus? (i + q.size + 1) = _
    rw [focus?, if_neg (by omega), Nat.add_sub_cancel]
    rfl
  | seq3First q r => exact if_pos hi
  | seq3Second q r =>
    show (seq3 q p r).focus? (i + q.size + 1) = _
    rw [focus?, if_neg (by omega), Nat.add_sub_cancel, if_pos hi]
    rfl
  | seq3Third q r =>
    show (seq3 q r p).focus? (i + (q.size + r.size) + 1) = _
    have hskip : i + (q.size + r.size) - q.size - r.size = i := by omega
    rw [focus?, if_neg (by omega), if_neg (by omega), hskip]
    rfl

/-- Below the root of the branch come its children, one after the other. -/
theorem subtree?_wrap_succ (f : Frame) (p : Program) (i : Nat) :
    (f.wrap p).subtree? (i + 1) =
      (f.before.flatMap preorder ++ (p.preorder ++ f.after.flatMap preorder))[i]? := by
  rw [subtree?_eq_getElem?, preorder_eq_cons, List.getElem?_cons_succ, children_wrap,
    List.flatMap_append, List.flatMap_cons]

theorem subtree?_wrap (f : Frame) (hi : i < p.size) :
    (f.wrap p).subtree? (i + f.offset) = p.subtree? i := by
  rw [← f.length_before_flatMap length_preorder, ← Nat.add_assoc, subtree?_wrap_succ,
    List.getElem?_append_right (Nat.le_add_left ..), Nat.add_sub_cancel,
    List.getElem?_append_left (by simpa using hi), subtree?_eq_getElem?]

/-- The children before the missing one do not depend on it. -/
theorem subtree?_wrap_before (f : Frame) (p q : Program) (hi : i + 1 < f.offset) :
    (f.wrap p).subtree? (i + 1) = (f.wrap q).subtree? (i + 1) := by
  rw [← f.length_before_flatMap length_preorder] at hi
  rw [subtree?_wrap_succ, subtree?_wrap_succ, List.getElem?_append_left (by omega),
    List.getElem?_append_left (by omega)]

end Frame

/-! ## The way to a node -/

/-- A way down from the root: it has ended, or it goes on in a child of a branch. -/
inductive Way where
  | here
  | down (f : Frame) (way : Way)

namespace Way

/-- The program that has `p` at the end of the way. -/
def fill : Way → Program → Program
  | here, p => p
  | down f way, p => f.wrap (way.fill p)

/-- The number of the node at the end of the way. -/
def node : Way → Nat
  | here => 0
  | down f way => way.node + f.offset

/-- The kinds in pre-order up to the end of the way. -/
def kindsBefore : Way → List Kind
  | here => []
  | down f way => f.kind :: (f.before.flatMap kinds ++ way.kindsBefore)

/-- The kinds that come after the subtree at the end of the way. -/
def kindsAfter : Way → List Kind
  | here => []
  | down f way => way.kindsAfter ++ f.after.flatMap kinds

theorem kinds_fill (way : Way) (p : Program) :
    (way.fill p).kinds = way.kindsBefore ++ (p.kinds ++ way.kindsAfter) := by
  induction way with
  | here => simp [fill, kindsBefore, kindsAfter]
  | down f way ih =>
    rw [fill, kinds_eq_cons, Frame.kind_wrap, Frame.children_wrap, List.flatMap_append,
      List.flatMap_cons, ih]
    simp [kindsBefore, kindsAfter]

@[simp] theorem length_kindsBefore (way : Way) : way.kindsBefore.length = way.node := by
  induction way with
  | here => rfl
  | down f way ih =>
    rw [kindsBefore, node, List.length_cons, List.length_append, ih,
      ← f.length_before_flatMap length_kinds]
    omega

theorem size_fill (way : Way) (p : Program) :
    (way.fill p).size = way.node + p.size + way.kindsAfter.length := by
  have h := congrArg List.length (way.kinds_fill p)
  simp only [length_kinds, List.length_append, length_kindsBefore] at h
  omega

theorem node_lt_size (way : Way) (p : Program) : way.node < (way.fill p).size := by
  have hp := p.size_pos
  rw [size_fill]
  omega

/-- The node at the end of the way has the same number whatever stands there. -/
theorem focus?_fill (way : Way) (p : Program) :
    (way.fill p).focus? way.node = some ⟨p, way.fill⟩ := by
  induction way with
  | here => rw [node, focus?]; rfl
  | down f way ih =>
    rw [fill, node, f.focus?_wrap (way.node_lt_size p), ih]
    rfl

theorem subtree?_fill (way : Way) (p : Program) : (way.fill p).subtree? way.node = some p := by
  rw [← map_subtree_focus?, focus?_fill]
  rfl

end Way

/-- The way to a node of a child, from one level further up. -/
theorem exists_fill_down {c : Program} {i k : Nat} (f : Frame)
    (h : ∃ (way : Way) (s : Program), way.fill s = c ∧ way.node = i) (hk : i + f.offset = k) :
    ∃ (way : Way) (s : Program), way.fill s = f.wrap c ∧ way.node = k := by
  obtain ⟨way, s, rfl, rfl⟩ := h
  exact ⟨.down f way, s, rfl, hk⟩

/-- There is a way to every node. -/
theorem exists_fill {p : Program} {i : Nat} (hi : i < p.size) :
    ∃ (way : Way) (s : Program), way.fill s = p ∧ way.node = i := by
  fun_induction focus? p i with
  | case1 p => exact ⟨.here, p, rfl, rfl⟩
  | case2 a i => simp [size] at hi
  -- from here on the way goes on in a child of a branch
  | case3 p q i h ih => exact exists_fill_down (.ifFoodFirst q) (ih h) rfl
  | case4 p q i h ih =>
    have hskip : i - p.size + p.size = i := Nat.sub_add_cancel (Nat.not_lt.mp h)
    exact exists_fill_down (.ifFoodSecond p) (ih (by rw [size] at hi; omega)) (congrArg (· + 1) hskip)
  | case5 p q i h ih => exact exists_fill_down (.seq2First q) (ih h) rfl
  | case6 p q i h ih =>
    have hskip : i - p.size + p.size = i := Nat.sub_add_cancel (Nat.not_lt.mp h)
    exact exists_fill_down (.seq2Second p) (ih (by rw [size] at hi; omega)) (congrArg (· + 1) hskip)
  | case7 p q r i h ih => exact exists_fill_down (.seq3First q r) (ih h) rfl
  | case8 p q r i h h' ih =>
    have hskip : i - p.size + p.size = i := Nat.sub_add_cancel (Nat.not_lt.mp h)
    exact exists_fill_down (.seq3Second p r) (ih h') (congrArg (· + 1) hskip)
  | case9 p q r i h h' ih =>
    have hskip : i - p.size - q.size + (p.size + q.size) = i := by omega
    exact exists_fill_down (.seq3Third p q) (ih (by rw [size] at hi; omega))
      (congrArg (· + 1) hskip)

/-! ## What another subtree leaves alone -/

/-- Node `j` is above node `i`: the subtree at `j` has node `i` below its root. -/
def Above (p : Program) (j i : Nat) : Prop :=
  ∃ s k, p.subtree? j = some s ∧ 0 < k ∧ k < s.size ∧ i = j + k

theorem above_root {p : Program} {i : Nat} (h : 0 < i) (hi : i < p.size) : p.Above 0 i :=
  ⟨p, i, by rw [subtree?], h, hi, (Nat.zero_add i).symm⟩

theorem Above.wrap {p : Program} {i j : Nat} (h : p.Above j i) (f : Frame) :
    (f.wrap p).Above (j + f.offset) (i + f.offset) := by
  obtain ⟨s, k, hs, hk, hks, rfl⟩ := h
  have hj : j < p.size := by
    rw [subtree?_eq_getElem?] at hs
    obtain ⟨hlt, -⟩ := List.getElem?_eq_some_iff.mp hs
    rwa [length_preorder] at hlt
  exact ⟨s, k, (f.subtree?_wrap hj).trans hs, hk, hks, by omega⟩

/-- A subtree before the end of a way depends on what stands there only if it has the end
of the way in it. -/
theorem Way.subtree?_fill_of_not_above {way : Way} {p q : Program} {j : Nat} (hj : j < way.node)
    (h : ¬(way.fill p).Above j way.node) :
    (way.fill q).subtree? j = (way.fill p).subtree? j := by
  induction way generalizing j with
  | here => exact absurd hj (Nat.not_lt_zero j)
  | down f way ih =>
    rw [node] at hj h
    cases j with
    | zero => exact absurd (above_root hj (node_lt_size (.down f way) p)) h
    | succ j =>
      by_cases hbefore : j + 1 < f.offset
      · exact f.subtree?_wrap_before _ _ hbefore
      · -- the subtree lies in the child that the way goes on to
        obtain ⟨k, hk⟩ : ∃ k, j + 1 = k + f.offset := ⟨j + 1 - f.offset, by omega⟩
        rw [hk] at hj h ⊢
        have hlt : k < way.node := by omega
        rw [fill, fill, f.subtree?_wrap (Nat.lt_trans hlt (way.node_lt_size q)),
          f.subtree?_wrap (Nat.lt_trans hlt (way.node_lt_size p))]
        exact ih hlt fun habove => h (habove.wrap f)

end AntTrail.Program
