import AntTrail.Draw.Source
import AntTrail.Fault

/-!
Random draws.

A draw takes words from a source and leaves the source after them. A number
below a bound is drawn by rejection: a 64-bit word is scaled to the bound, and
drawn again if it falls into the incomplete part of the scale, so that all
numbers below the bound are equally likely.
-/
namespace AntTrail

/-- The computations that draw from a source. -/
abbrev Draw := StateT Draw.Source (Except Fault)

namespace Draw

/-- A word of 32 bits. -/
def word32 : Draw UInt32 := do
  let s ← get
  set s.next
  return s.word

/-- A word of 64 bits: the low half, then the high half. -/
def word64 : Draw UInt64 := do
  let low ← word32
  let high ← word32
  return low.toUInt64 ||| (high.toUInt64 <<< 32)

/-- The scaled words that are accepted: the largest multiple of the bound that
is a power of two times it and at most `2^64`. -/
def zone (bound : Nat) : Nat := bound <<< (63 - bound.log2)

/-- Draws until a scaled word is accepted, at most `attempts` times. -/
def belowWithin (bound : Nat) : (attempts : Nat) → Draw Nat
  | 0 => throw .endlessDraw
  | attempts + 1 => do
    let v ← word64
    let scaled := v.toNat * bound
    if scaled % UInt64.size < zone bound then return scaled / UInt64.size
    else belowWithin bound attempts

/-- A number below `bound`, for a bound of at most 64 bits. An attempt takes two
words, so after half a period of attempts the same words would come again: a
draw that has not ended by then never does. -/
def below (bound : Nat) : Draw Nat :=
  if bound = 0 then throw .emptyRange
  else belowWithin bound (period / 2)

/-- A number from `low` up to, but not including, `high`. -/
def between (low high : Nat) : Draw Nat := do
  let n ← below (high - low)
  return low + n

/-- A member of an array. -/
def pick {α : Type} (xs : Array α) : Draw α := do
  let i ← below xs.size
  match xs[i]? with
  | some x => return x
  | none => throw (.outOfBounds xs.size i)

/-- `n` draws, one after the other. -/
def times {α : Type} (draw : Draw α) : Nat → Draw (List α)
  | 0 => return []
  | n + 1 => do
    let x ← draw
    let xs ← times draw n
    return x :: xs

end Draw
end AntTrail
