import AntTrail.Program.Growth

/-!
Filling a population with random programs.

The programs are made in chunks, each from a source of its own. The seeds of all
chunks are drawn first, so that the chunks do not depend on each other and the
draws from the controlling source depend on nothing but the number of programs.
-/
namespace AntTrail

namespace Generator

/-- The number of programs in a full chunk. -/
def chunkSize : Nat := 64

/-- The number of chunks for a number of programs; the last one can be shorter. -/
def chunkCount (count : Nat) : Nat := (count + (chunkSize - 1)) / chunkSize

/-- The first `n` programs from the source of a seed. -/
def chunk (g : Generator) (seed : UInt64) (n : Nat) : Except Fault (List Program) :=
  (Draw.times g.generate n).run' (.ofSeed seed)

/-- `count` programs in chunks with the given seeds. -/
def chunks (g : Generator) : (seeds : List UInt64) → (count : Nat) → Except Fault (List Program)
  | [], _ => .ok []
  | seed :: seeds, count => do
    let ps ← g.chunk seed (min chunkSize count)
    let rest ← g.chunks seeds (count - chunkSize)
    return ps ++ rest

/-- `count` random programs. -/
def refill (g : Generator) (count : Nat) : Draw (List Program) := do
  let seeds ← Draw.times Draw.word64 (chunkCount count)
  g.chunks seeds count

end Generator
end AntTrail
