/-!
A keystream: for a key, a stream number and a block number, sixteen words that
look random. It is the ChaCha function with eight rounds, a 64-bit block number
and a 64-bit stream number.
-/
namespace AntTrail.Draw

/-- A key of 256 bits. -/
abbrev Key := Vector UInt32 8

/-- Sixteen words. -/
abbrev Block := Vector UInt32 16

/-- A word turned to the left by `n` bits. -/
def rotateLeft (x n : UInt32) : UInt32 := (x <<< n) ||| (x >>> (32 - n))

/-- Mixes four words of a block. -/
def quarterRound (s : Block) (a b c d : Fin 16) : Block :=
  let xa := s[a] + s[b]
  let xd := rotateLeft (s[d] ^^^ xa) 16
  let xc := s[c] + xd
  let xb := rotateLeft (s[b] ^^^ xc) 12
  let ya := xa + xb
  let yd := rotateLeft (xd ^^^ ya) 8
  let yc := xc + yd
  let yb := rotateLeft (xb ^^^ yc) 7
  (((s.set a ya).set b yb).set c yc).set d yd

/-- Mixes the columns and then the diagonals of a block, seen as four by four words. -/
def doubleRound (s : Block) : Block :=
  let s := quarterRound s 0 4 8 12
  let s := quarterRound s 1 5 9 13
  let s := quarterRound s 2 6 10 14
  let s := quarterRound s 3 7 11 15
  let s := quarterRound s 0 5 10 15
  let s := quarterRound s 1 6 11 12
  let s := quarterRound s 2 7 8 13
  quarterRound s 3 4 9 14

/-- The block before mixing: four constants, the key, the block number and the
stream number. -/
def initialBlock (key : Key) (stream number : UInt64) : Block :=
  #v[0x61707865, 0x3320646e, 0x79622d32, 0x6b206574,
    key[0], key[1], key[2], key[3], key[4], key[5], key[6], key[7],
    number.toUInt32, (number >>> 32).toUInt32, stream.toUInt32, (stream >>> 32).toUInt32]

/-- Block `number` of the keystream. -/
def keystream (key : Key) (stream number : UInt64) : Block :=
  let start := initialBlock key stream number
  let mixed := doubleRound (doubleRound (doubleRound (doubleRound start)))
  mixed.zipWith (· + ·) start

end AntTrail.Draw
