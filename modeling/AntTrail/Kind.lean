import AntTrail.Action

/-!
The six kinds of node from which programs are built.
-/
namespace AntTrail

/-- A kind of node: an action, which is a leaf, or one of three branches. -/
inductive Kind where
  /-- A leaf: the ant acts. -/
  | action (a : Action)
  /-- A branch of two: the first if there is food ahead, otherwise the second. -/
  | ifFood
  /-- A branch of two, one after the other. -/
  | seq2
  /-- A branch of three, one after the other. -/
  | seq3
deriving DecidableEq, Repr

namespace Kind

/-- All kinds, in the order by which they are numbered. -/
def all : List Kind :=
  [action .move, action .turnLeft, action .turnRight, ifFood, seq2, seq3]

/-- The number of children of a node of this kind. -/
def arity : Kind → Nat
  | action _ => 0
  | ifFood => 2
  | seq2 => 2
  | seq3 => 3

/-- A leaf has no children. -/
def isLeaf (k : Kind) : Bool := k.arity == 0

/-- The action of a leaf. -/
def action? : Kind → Option Action
  | action a => some a
  | _ => none

/-- The token that stands for a kind in program text. -/
def token : Kind → String
  | action .move => "m"
  | action .turnLeft => "l"
  | action .turnRight => "r"
  | ifFood => "if"
  | seq2 => "p2"
  | seq3 => "p3"

/-- The number of a kind: its place in `all`. -/
def number : Kind → Nat
  | action .move => 0
  | action .turnLeft => 1
  | action .turnRight => 2
  | ifFood => 3
  | seq2 => 4
  | seq3 => 5

theorem all_number (k : Kind) : all[k.number]? = some k := by
  cases k with
  | action a => cases a <;> rfl
  | _ => rfl

theorem mem_all (k : Kind) : k ∈ all := List.mem_of_getElem? (all_number k)

theorem token_injective {j k : Kind} (h : j.token = k.token) : j = k := by
  cases j with
  | action a => cases a <;> cases k with
    | action b => cases b <;> simp_all [token]
    | _ => simp [token] at h
  | _ => cases k with
    | action b => cases b <;> simp [token] at h
    | _ => simp_all [token]

end Kind
end AntTrail
