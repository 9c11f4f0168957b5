import AntTrail.Draw
import AntTrail.Evolution.Ranking

/-!
Tournaments: a parent is the best of a few candidates drawn at random.
-/
namespace AntTrail

/-- The placing of a candidate. -/
def candidate (scores : Array Int32) (i : Nat) : Except Fault Placing :=
  match scores[i]? with
  | some score => .ok ⟨score, i⟩
  | none => .error (.outOfBounds scores.size i)

/-- The better of two placings, the first if they are the same. -/
def Placing.better (a b : Placing) : Placing := if b.before a then b else a

/-- The best of some placings. -/
def bestPlacing : List Placing → Option Placing
  | [] => none
  | p :: ps => some (ps.foldl Placing.better p)

/-- The candidate with the lowest score, and of those the first in the population. -/
def bestOf (scores : Array Int32) (candidates : List Nat) : Except Fault (Option Nat) := do
  let ps ← candidates.mapM (candidate scores)
  return (bestPlacing ps).map Placing.index

/-- The most candidates that can be kept in a list: eight bytes each, in an address
space of 63 bits. Memory itself is taken to suffice, and then no other list of a run is
ever asked to be longer than can be. The next population takes as much room as the one
that there already is. A refill lists a seed with a length for every 64 programs, and
then what has grown from it, at most `2^58` times 24 bytes. -/
def maxCandidates : Nat := 1152921504606846975

/-- The best of `size` candidates, at least one, drawn independently; none if
there is nobody to draw. All are drawn before they are compared. -/
def tournament (scores : Array Int32) (size : Nat) : Draw (Option Nat) := do
  if scores.size = 0 then return none
  if maxCandidates < size then throw .capacityOverflow
  let candidates ← Draw.times (Draw.below scores.size) (max size 1)
  bestOf scores candidates

end AntTrail
