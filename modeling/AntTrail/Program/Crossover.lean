import AntTrail.Draw
import AntTrail.Program.Subtree

/-!
Crossover: two programs exchange a subtree each.
-/
namespace AntTrail.Program

/-- The children of two programs: a node of each below the root is drawn, and the
subtrees there are exchanged. A leaf has no such node; then the programs are
their own children and nothing is drawn. -/
def crossover (p q : Program) : Draw (Program × Program) := do
  if p.size < 2 ∨ q.size < 2 then return (p, q)
  let i ← Draw.between 1 p.size
  let j ← Draw.between 1 q.size
  return (p.exchange? i q j).getD (p, q)

end AntTrail.Program
