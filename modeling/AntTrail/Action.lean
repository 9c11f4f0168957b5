import AntTrail.Fault

/-!
What a program can make an ant do, and what it can ask of it.
-/
namespace AntTrail

/-- Something an ant does; each costs one step. -/
inductive Action where
  | move
  | turnLeft
  | turnRight
deriving DecidableEq, Repr

/-- The word for an action in a transcript. -/
def Action.word : Action → String
  | .move => "move"
  | .turnLeft => "left"
  | .turnRight => "right"

/-- Ants with states in `σ`. Looking ahead may change the state too, for ants
that keep a record of having looked. -/
class Ant (σ : Type) where
  act : Action → σ → Except Fault σ
  foodAhead : σ → Except Fault (Bool × σ)

end AntTrail
