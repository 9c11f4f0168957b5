import AntTrail.Course

/-!
Transcripts: a trial together with what the ant has done so far.

An entry is an action and the trial right after it. Looking ahead is no action.
-/
namespace AntTrail

/-- A trial and the actions that led to it. -/
structure Transcript where
  trial : Trial
  /-- The actions in order, each with the trial after it. -/
  entries : Array (Action × Trial) := #[]

namespace Transcript

instance : Ant Transcript where
  act a s := do
    let t ← s.trial.act a
    return ⟨t, s.entries.push (a, t)⟩
  foodAhead s := do return (← s.trial.foodAhead, s)

/-- A program on a course, until the trial has finished: the transcript and the
number of passes. -/
def ofProgram (c : Course) (p : Program) : Except Fault (Transcript × Nat) := do
  p.complete (fun s => s.trial.finished) { trial := ← c.trial }

end Transcript
end AntTrail
