import AntTrail.Program

/-!
Running a program.

`Program.run` is one pass. A run to completion repeats whole passes and looks
only between them whether the ant has finished, so that the last pass can go on
after the end. The passes are counted in 32 bits; a run that would count further
is a fault, and so every run to completion ends.
-/
namespace AntTrail.Program

variable {σ : Type} [Ant σ]

/-- One pass. A branch on food looks ahead once and runs one of its children;
sequences run all of theirs. -/
def run : Program → σ → Except Fault σ
  | action a, s => Ant.act a s
  | ifFood p q, s => do
    let (food, s) ← Ant.foodAhead s
    if food then p.run s else q.run s
  | seq2 p q, s => do
    let s ← p.run s
    q.run s
  | seq3 p q r, s => do
    let s ← p.run s
    let s ← q.run s
    r.run s

/-- A given number of passes. -/
def runTimes (p : Program) : Nat → σ → Except Fault σ
  | 0, s => .ok s
  | n + 1, s => do
    let s ← p.run s
    p.runTimes n s

/-- The largest number of passes that is counted. -/
def maxPasses : Nat := 4294967295

/-- Passes until `finished` holds, from a count of `passes` on; the last state
and the count. -/
def runUntil (p : Program) (finished : σ → Bool) (passes : Nat) (s : σ) : Except Fault (σ × Nat) :=
  if finished s then .ok (s, passes)
  else do
    let s ← p.run s
    if passes < maxPasses then p.runUntil finished (passes + 1) s
    else .error .addOverflow
termination_by maxPasses - passes

/-- Passes until `finished` holds. -/
def complete (p : Program) (finished : σ → Bool) (s : σ) : Except Fault (σ × Nat) :=
  p.runUntil finished 0 s

end AntTrail.Program
