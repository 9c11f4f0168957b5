/-!
Ranking a population by its scores, and what a generation amounts to.

Lower scores are better, and of equal scores the one that comes first in the
population. `rank` sorts by score alone; that it keeps equal scores in place
makes the order the same.
-/
namespace AntTrail

/-- The score of a program and the program's place in the population. -/
structure Placing where
  score : Int32
  index : Nat
deriving DecidableEq, Repr

namespace Placing

/-- Better: a lower score, or the same score and an earlier place. -/
def before (a b : Placing) : Bool :=
  decide (a.score.toInt < b.score.toInt) || (a.score = b.score && a.index < b.index)

/-- Not worse. -/
def notAfter (a b : Placing) : Bool := !b.before a

/-- Nothing is missing. -/
def isPerfect (p : Placing) : Bool := p.score = 0

end Placing

/-- The placings of a population, in its order. -/
def placings (scores : List Int32) : List Placing :=
  scores.zipIdx.map fun (score, index) => ⟨score, index⟩

/-- The placings of a population, the best first. -/
def rank (scores : List Int32) : List Placing :=
  (placings scores).mergeSort fun a b => a.score.toInt ≤ b.score.toInt

/-- What is reported of a generation. -/
structure Stats where
  generation : UInt64
  best : Int32
  mean : Float
  worst : Int32
  /-- The best program, in postfix form. -/
  bestProgram : String
  /-- The number of its nodes. -/
  bestSize : Nat

namespace Stats

/-- The mean of some scores, zero if there are none. They are added in their order. -/
def meanOf (scores : List Int32) : Float :=
  if scores.isEmpty then 0.0
  else scores.foldl (fun sum s => sum + s.toFloat) 0.0 / scores.length.toFloat

/-- What is reported of a generation with the given placings, the best first. -/
def ofRanked (generation : UInt64) (ranked : List Placing) (bestProgram : String)
    (bestSize : Nat) : Stats where
  generation := generation
  best := (ranked.head?.map Placing.score).getD Int32.maxValue
  mean := meanOf (ranked.map Placing.score)
  worst := (ranked.getLast?.map Placing.score).getD Int32.maxValue
  bestProgram := bestProgram
  bestSize := bestSize

end Stats
end AntTrail
