import AntTrail.Course

/-!
How programs are scored.
-/
namespace AntTrail

/-- A scoring that broke off, with what it said, if it said anything. -/
structure Breakdown where
  words : Option String
deriving DecidableEq, Repr

/-- A way to score programs; lower is better. -/
abbrev Fitness := Program → Except Breakdown Int32

/-- Programs are scored by the food that they leave on a course. -/
def Course.fitness (c : Course) : Fitness := fun p =>
  match c.evaluate p with
  | .ok outcome => .ok (Int32.ofInt outcome.score)
  | .error f => .error ⟨some f.message⟩

end AntTrail
