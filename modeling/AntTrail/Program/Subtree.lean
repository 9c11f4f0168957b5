import AntTrail.Program

/-!
Subtrees by their place in pre-order.

`subtree?` finds a subtree, `focus?` finds it together with its surroundings,
as a function from what is put in its place to the whole program. Replacing and
exchanging subtrees are made of `focus?`; `replace` and `exchange` also say what
is left where there is no such node: the programs as they were. `Walk` visits the
subtrees one by one from a stack of those still to be visited.
-/
namespace AntTrail

namespace Program

/-- The subtree whose root is node `i`. -/
def subtree? : Program → Nat → Option Program
  | p, 0 => some p
  | action _, _ + 1 => none
  | ifFood p q, i + 1 => if i < p.size then p.subtree? i else q.subtree? (i - p.size)
  | seq2 p q, i + 1 => if i < p.size then p.subtree? i else q.subtree? (i - p.size)
  | seq3 p q r, i + 1 =>
    if i < p.size then p.subtree? i
    else if i - p.size < q.size then q.subtree? (i - p.size)
    else r.subtree? (i - p.size - q.size)

/-- A subtree and the program around it. -/
structure Focus where
  /-- The subtree. -/
  subtree : Program
  /-- The program with another subtree in this place. -/
  plug : Program → Program

/-- The same subtree, seen from one level further up. -/
def Focus.under (f : Focus) (wrap : Program → Program) : Focus := ⟨f.subtree, wrap ∘ f.plug⟩

/-- The subtree whose root is node `i`, with its surroundings. -/
def focus? : Program → Nat → Option Focus
  | p, 0 => some ⟨p, id⟩
  | action _, _ + 1 => none
  | ifFood p q, i + 1 =>
    if i < p.size then (p.focus? i).map (·.under (ifFood · q))
    else (q.focus? (i - p.size)).map (·.under (ifFood p ·))
  | seq2 p q, i + 1 =>
    if i < p.size then (p.focus? i).map (·.under (seq2 · q))
    else (q.focus? (i - p.size)).map (·.under (seq2 p ·))
  | seq3 p q r, i + 1 =>
    if i < p.size then (p.focus? i).map (·.under (seq3 · q r))
    else if i - p.size < q.size then (q.focus? (i - p.size)).map (·.under (seq3 p · r))
    else (r.focus? (i - p.size - q.size)).map (·.under (seq3 p q ·))

/-- The subtree at node `i`, and the program with `new` in its place. -/
def replace? (p : Program) (i : Nat) (new : Program) : Option (Program × Program) :=
  (p.focus? i).map fun f => (f.subtree, f.plug new)

/-- Both programs with the subtree at node `i` of the first and that at node `j`
of the second exchanged, if there are such nodes. -/
def exchange? (p : Program) (i : Nat) (q : Program) (j : Nat) : Option (Program × Program) :=
  match p.focus? i, q.focus? j with
  | some f, some g => some (f.plug g.subtree, g.plug f.subtree)
  | _, _ => none

/-- The subtree that was at node `i`, if there is such a node, and the program after `new`
has been put in its place; without the node the program stays as it is. -/
def replace (p : Program) (i : Nat) (new : Program) : Option Program × Program :=
  match p.replace? i new with
  | some (old, q) => (some old, q)
  | none => (none, p)

/-- Whether the subtrees at node `i` of the first and node `j` of the second program have
been exchanged, and both programs afterwards; without one of the nodes they stay as they are. -/
def exchange (p : Program) (i : Nat) (q : Program) (j : Nat) : Bool × Program × Program :=
  match p.exchange? i q j with
  | some (a, b) => (true, a, b)
  | none => (false, p, q)

end Program

/-- A visit of subtrees in pre-order: those still to be visited, the next one
first, none of them inside another. -/
structure Walk where
  stack : List Program

namespace Walk

/-- The visit of a whole program. -/
def ofProgram (p : Program) : Walk := ⟨[p]⟩

/-- The number of subtrees still to be visited. -/
def remaining (w : Walk) : Nat := w.stack.foldr (fun p n => p.size + n) 0

/-- The next subtree, and the visit after it: its children come before what was
to be visited after it. -/
def next? (w : Walk) : Option (Program × Walk) :=
  match w.stack with
  | [] => none
  | p :: rest => some (p, ⟨p.children ++ rest⟩)

theorem remaining_next {w w' : Walk} {p : Program} (h : w.next? = some (p, w')) :
    w'.remaining + 1 = w.remaining := by
  obtain ⟨stack⟩ := w
  cases stack with
  | nil => cases h
  | cons q rest =>
    simp only [next?, Option.some.injEq, Prod.mk.injEq] at h
    obtain ⟨rfl, rfl⟩ := h
    cases q <;>
      simp only [remaining, Program.children, Program.size, List.cons_append, List.nil_append,
        List.foldr_cons] <;> omega

/-- The subtrees in the order in which they are visited. -/
def toList (w : Walk) : List Program :=
  match _h : w.next? with
  | none => []
  | some (p, w') => p :: w'.toList
termination_by w.remaining
decreasing_by have := remaining_next _h; omega

end Walk
end AntTrail
