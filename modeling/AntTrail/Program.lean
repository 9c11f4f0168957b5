import AntTrail.Kind

/-!
Programs for ants: ordered trees over the six kinds of node.

A branch has exactly as many children as its kind demands, by the type. Nodes
are numbered in pre-order, a node before its children and children from left to
right; `Program.preorder` lists the subtrees in that order.
-/
namespace AntTrail

/-- A program. -/
inductive Program where
  | action (a : Action)
  | ifFood (food other : Program)
  | seq2 (first second : Program)
  | seq3 (first second third : Program)
deriving DecidableEq, Repr

namespace Program

/-- The kind of the root. -/
def kind : Program → Kind
  | action a => .action a
  | ifFood .. => .ifFood
  | seq2 .. => .seq2
  | seq3 .. => .seq3

/-- The subtrees directly below the root. -/
def children : Program → List Program
  | action _ => []
  | ifFood p q => [p, q]
  | seq2 p q => [p, q]
  | seq3 p q r => [p, q, r]

/-- The number of nodes. -/
def size : Program → Nat
  | action _ => 1
  | ifFood p q => 1 + p.size + q.size
  | seq2 p q => 1 + p.size + q.size
  | seq3 p q r => 1 + p.size + q.size + r.size

/-- The number of edges on the longest way from the root to a leaf. -/
def height : Program → Nat
  | action _ => 0
  | ifFood p q => max p.height q.height + 1
  | seq2 p q => max p.height q.height + 1
  | seq3 p q r => max p.height (max q.height r.height) + 1

/-- The subtrees in pre-order, the program itself first. -/
def preorder : Program → List Program
  | action a => [action a]
  | ifFood p q => ifFood p q :: (p.preorder ++ q.preorder)
  | seq2 p q => seq2 p q :: (p.preorder ++ q.preorder)
  | seq3 p q r => seq3 p q r :: (p.preorder ++ q.preorder ++ r.preorder)

/-- The kinds of the nodes in pre-order. -/
def kinds (p : Program) : List Kind := p.preorder.map kind

/-- A program is a leaf when its root is. -/
def isLeaf (p : Program) : Bool := p.kind.isLeaf

/-- The program with its `i`-th child exchanged for `c`. -/
def setChild (p : Program) (i : Nat) (c : Program) : Except Fault Program :=
  match p, i with
  | ifFood _ q, 0 => .ok (ifFood c q)
  | ifFood p _, 1 => .ok (ifFood p c)
  | seq2 _ q, 0 => .ok (seq2 c q)
  | seq2 p _, 1 => .ok (seq2 p c)
  | seq3 _ q r, 0 => .ok (seq3 c q r)
  | seq3 p _ r, 1 => .ok (seq3 p c r)
  | seq3 p q _, 2 => .ok (seq3 p q c)
  | p, i => .error (.outOfBounds p.kind.arity i)

theorem size_pos (p : Program) : 0 < p.size := by
  cases p <;> simp only [size] <;> omega

@[simp] theorem length_preorder (p : Program) : p.preorder.length = p.size := by
  induction p with
  | action a => rfl
  | ifFood p q ihp ihq =>
    simp only [preorder, size, List.length_cons, List.length_append, ihp, ihq]
    omega
  | seq2 p q ihp ihq =>
    simp only [preorder, size, List.length_cons, List.length_append, ihp, ihq]
    omega
  | seq3 p q r ihp ihq ihr =>
    simp only [preorder, size, List.length_cons, List.length_append, ihp, ihq, ihr]
    omega

@[simp] theorem length_kinds (p : Program) : p.kinds.length = p.size := by
  simp [kinds]

end Program

/-- A program with root `k` whose children are what `child` gives, asked once
for each child from left to right. The first failure of `child` is the result. -/
def Kind.build {m : Type → Type} [Monad m] (k : Kind) (child : m Program) : m Program :=
  match k with
  | .action a => pure (.action a)
  | .ifFood => do
    let p ← child
    let q ← child
    return .ifFood p q
  | .seq2 => do
    let p ← child
    let q ← child
    return .seq2 p q
  | .seq3 => do
    let p ← child
    let q ← child
    let r ← child
    return .seq3 p q r

end AntTrail
