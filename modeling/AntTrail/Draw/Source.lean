import AntTrail.Draw.Keystream

/-!
Sources of random words.

A source is a place in a keystream: a key, a stream number and a word position.
Drawing a word moves the position by one; after `2^68` words the stream begins
again. Everything that is drawn is a function of the three, and a saved source
is nothing but the three.
-/
namespace AntTrail.Draw

/-- The number of words before a stream begins again: sixteen for each of `2^64` blocks. -/
def period : Nat := 16 * 18446744073709551616

/-- A place in a keystream, with the block in which the next word stands. -/
structure Source where
  key : Key
  stream : UInt64
  /-- The number of words before the next one. -/
  position : Nat
  block : Block
  position_lt : position < period
  block_eq : block = keystream key stream (UInt64.ofNat (position / 16))

namespace Source

/-- The source at a word position; positions count modulo the period. -/
def place (key : Key) (stream : UInt64) (position : Nat) : Source where
  key := key
  stream := stream
  position := position % period
  block := keystream key stream (UInt64.ofNat (position % period / 16))
  position_lt := Nat.mod_lt _ (by decide)
  block_eq := rfl

/-- A source is its key, its stream number and its position. -/
theorem ext {s t : Source} (hk : s.key = t.key) (hs : s.stream = t.stream)
    (hp : s.position = t.position) : s = t := by
  obtain ⟨k, n, p, b, h1, h2⟩ := s
  obtain ⟨l, m, q, c, g1, g2⟩ := t
  cases hk
  cases hs
  cases hp
  cases h2
  cases g2
  rfl

/-- The next word. -/
def word (s : Source) : UInt32 := s.block.get ⟨s.position % 16, Nat.mod_lt _ (by decide)⟩

/-- The source after the next word. A new block is made when the last word of
one has been drawn. -/
def next (s : Source) : Source :=
  if h : s.position % 16 ≠ 15 then
    { s with
      position := s.position + 1
      position_lt := by
        have := s.position_lt
        unfold period at *
        omega
      block_eq := by
        rw [show (s.position + 1) / 16 = s.position / 16 by omega]
        exact s.block_eq }
  else place s.key s.stream (s.position + 1)

/-- Drawing moves the position by one and nothing else. -/
theorem next_eq_place (s : Source) : s.next = place s.key s.stream (s.position + 1) := by
  unfold next
  split
  · next h =>
    have := s.position_lt
    refine ext rfl rfl ?_
    simp only [place]
    unfold period at *
    omega
  · rfl

/-! ## Seeds -/

/-- One step of the generator that spreads a seed over a key. -/
def spread (state : UInt64) : UInt64 := state * 6364136223846793005 + 11634580027462260723

/-- The word that a state of that generator shows. -/
def spreadWord (state : UInt64) : UInt32 :=
  let x := (((state >>> 18) ^^^ state) >>> 27).toUInt32
  let turn := (state >>> 59).toUInt32
  (x >>> turn) ||| (x <<< ((32 - turn) % 32))

/-- The first `n` words of a seed. -/
def seedWords : Nat → UInt64 → List UInt32
  | 0, _ => []
  | n + 1, state => spreadWord (spread state) :: seedWords n (spread state)

theorem length_seedWords (n : Nat) (state : UInt64) : (seedWords n state).length = n := by
  induction n generalizing state with
  | zero => rfl
  | succ n ih => simp [seedWords, ih]

/-- The key that a seed stands for. -/
def seedKey (seed : UInt64) : Key := ⟨(seedWords 8 seed).toArray, by simp [length_seedWords]⟩

/-- The source that a seed stands for, at its beginning. -/
def ofSeed (seed : UInt64) : Source := place (seedKey seed) 0 0

/-! ## Saving -/

/-- A source as it is saved. The position has 128 bits there, of which those
beyond the period have no effect. -/
structure Saved where
  key : Key
  stream : UInt64
  position : BitVec 128
deriving DecidableEq

/-- The source as it is saved. -/
def save (s : Source) : Saved := ⟨s.key, s.stream, BitVec.ofNat 128 s.position⟩

/-- The source that was saved. -/
def Saved.restore (s : Saved) : Source := place s.key s.stream s.position.toNat

/-- Saving loses nothing. -/
theorem restore_save (s : Source) : s.save.restore = s := by
  have h := s.position_lt
  refine ext rfl rfl ?_
  simp only [save, Saved.restore, place, BitVec.toNat_ofNat]
  unfold period at *
  omega

end Source
end AntTrail.Draw
