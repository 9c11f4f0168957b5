import AntTrail.Draw
import AntTrail.Program
import AntTrail.Settings

/-!
Random programs.

The root is a branch. Above the least height only branches are drawn, at the
greatest only leaves, and between them any kind.
-/
namespace AntTrail

/-- Why no programs can grow from some kinds. -/
inductive GrowthError where
  | refused (e : SettingsError)
  | noLeaves
  | noBranches

/-- The text that says why. -/
def GrowthError.message : GrowthError → String
  | refused e => e.message
  | noLeaves => "Empty population: no terminal node kinds defined"
  | noBranches => "Empty population: no non-terminal node kinds defined"

/-- What programs grow from: bounds on their height, and kinds, of which one that
is listed twice is twice as likely. -/
structure Generator where
  bounds : GrowthBounds
  kinds : Array Kind
  leaves : Array Action
  branches : Array Kind

namespace Generator

/-- A generator over some kinds. -/
def ofKinds (bounds : GrowthBounds) (kinds : List Kind) : Except GrowthError Generator := do
  bounds.check.mapError .refused
  let leaves := kinds.filterMap Kind.action?
  let branches := kinds.filter fun k => !k.isLeaf
  if leaves.isEmpty then throw .noLeaves
  if branches.isEmpty then throw .noBranches
  return ⟨bounds, kinds.toArray, leaves.toArray, branches.toArray⟩

/-- A generator over all kinds. -/
def ofBounds (bounds : GrowthBounds) : Except GrowthError Generator := ofKinds bounds Kind.all

/-- The kinds for a node that may have `levels` more below it: only branches
while its depth is less than the least height. -/
def kindsAbove (g : Generator) (levels : Nat) : Array Kind :=
  if g.bounds.maxHeight - levels < g.bounds.minHeight then g.branches else g.kinds

/-- A random program of at most `levels` levels below its root. -/
def grow (g : Generator) : (levels : Nat) → Draw Program
  | 0 => return .action (← Draw.pick g.leaves)
  | levels + 1 => do
    let k ← Draw.pick (g.kindsAbove (levels + 1))
    k.build (g.grow levels)

/-- A random program, within the bounds. -/
def generate (g : Generator) : Draw Program := do
  let k ← Draw.pick g.branches
  k.build (g.grow (g.bounds.maxHeight - 1))

end Generator
end AntTrail
