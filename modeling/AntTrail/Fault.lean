/-!
How a computation over machine integers, indexed storage and random draws can
break off. A fault is not an answer of the program: it ends whatever was being
computed, and nothing computed so far is kept.
-/
namespace AntTrail

/-- The reasons for which a computation is abandoned. -/
inductive Fault where
  /-- A sum leaves the range of its type. -/
  | addOverflow
  /-- A difference leaves the range of its type. -/
  | subOverflow
  /-- A remainder by zero. -/
  | remainderByZero
  /-- The one remainder whose quotient leaves the range of its type. -/
  | remainderOverflow
  /-- A cell, slot or candidate beyond the end of what holds it. -/
  | outOfBounds (size index : Nat)
  /-- A list with more items than memory can have. -/
  | capacityOverflow
  /-- A draw from a range without members. -/
  | emptyRange
  /-- A draw by rejection that never accepts. -/
  | endlessDraw
deriving DecidableEq, Repr

/-- The text in which a fault is reported. -/
def Fault.message : Fault → String
  | .addOverflow => "attempt to add with overflow"
  | .subOverflow => "attempt to subtract with overflow"
  | .remainderByZero => "attempt to calculate the remainder with a divisor of zero"
  | .remainderOverflow => "attempt to calculate the remainder with overflow"
  | .outOfBounds size index =>
    s!"index out of bounds: the len is {size} but the index is {index}"
  | .capacityOverflow => "capacity overflow"
  | .emptyRange => "cannot sample empty range"
  | .endlessDraw => "random draw without end"

end AntTrail
