import AntTrail.Json.SyntaxError

/-!
Numbers: how they are written, and which number is meant.

A number without fraction and exponent is an integer as long as it fits into 64
bits. Any other is a floating point number, computed from at most as many leading
digits as fit into 64 bits, by one multiplication or division with a power of ten;
it can miss the nearest floating point number by a few units in the last place.
-/
namespace AntTrail.Json

/-- A number as it is written. -/
structure Literal where
  negative : Bool
  /-- The digits before the point. -/
  whole : List Char
  /-- The digits after the point; none without a point. -/
  fraction : List Char
  /-- The power of ten, with a sign. -/
  exponent : Option (Bool × List Char)
deriving DecidableEq, Repr

/-- The number that is meant. -/
inductive Number where
  | integer (n : Int)
  | real (x : Float)

namespace Literal

/-- One or more digits, and what stands after them. -/
def demandDigits (cs : List Char) : Except SyntaxError (List Char × List Char) :=
  match cs.span Char.isDigit with
  | ([], []) => .error .endOfValue
  | ([], _ :: _) => .error .invalidNumber
  | found => .ok found

/-- The digits before the point. A zero stands alone. -/
def scanWhole (cs : List Char) : Except SyntaxError (List Char × List Char) := do
  let (digits, rest) ← demandDigits cs
  match digits with
  | '0' :: _ :: _ => throw .invalidNumber
  | _ => return (digits, rest)

/-- The digits after the point, if there is a point. -/
def scanFraction : List Char → Except SyntaxError (List Char × List Char)
  | '.' :: rest => demandDigits rest
  | rest => .ok ([], rest)

/-- The sign of an exponent: whether it is negative. -/
def scanSign : List Char → Bool × List Char
  | '+' :: rest => (false, rest)
  | '-' :: rest => (true, rest)
  | rest => (false, rest)

/-- The exponent, if there is one. -/
def scanExponent : List Char → Except SyntaxError (Option (Bool × List Char) × List Char)
  | c :: rest =>
    if c = 'e' ∨ c = 'E' then do
      let (negative, rest) := scanSign rest
      let (digits, rest) ← demandDigits rest
      return (some (negative, digits), rest)
    else .ok (none, c :: rest)
  | [] => .ok (none, [])

/-- A number after its sign, and what stands after it. -/
def scan (negative : Bool) (cs : List Char) : Except SyntaxError (Literal × List Char) := do
  let (whole, rest) ← scanWhole cs
  let (fraction, rest) ← scanFraction rest
  let (exponent, rest) ← scanExponent rest
  return (⟨negative, whole, fraction, exponent⟩, rest)

/-! ## Value -/

/-- The value of a decimal digit. -/
def digit (c : Char) : Nat := c.toNat - '0'.toNat

/-- The number that digits write. -/
def ofDigits (ds : List Char) : Nat := ds.foldl (fun n d => n * 10 + digit d) 0

/-- A number with digits appended to it as long as it stays below `2^64`, and the
digits that are left over. -/
def absorb (n : Nat) : List Char → Nat × List Char
  | [] => (n, [])
  | d :: ds => if n * 10 + digit d < UInt64.size then absorb (n * 10 + digit d) ds else (n, d :: ds)

/-- A power of ten that floating point numbers have. -/
def powerOfTen (n : Nat) : Float := Float.ofScientific 1 false n

/-- The greatest exponent of such a power. -/
def maxPower : Nat := 308

/-- A number divided by `10 ^ n`, in several steps if need be. -/
def divideByPower (x : Float) (n : Nat) : Float :=
  if n ≤ maxPower then x / powerOfTen n
  else if x == 0.0 then x
  else divideByPower (x / powerOfTen maxPower) (n - maxPower)
termination_by n
decreasing_by unfold maxPower at *; omega

/-- The floating point number `significand * 10 ^ exponent`. -/
def toFloat (significand : Nat) (exponent : Int) : Except SyntaxError Float :=
  let x := Float.ofNat significand
  if exponent < 0 then .ok (divideByPower x exponent.natAbs)
  else if exponent.natAbs ≤ maxPower then
    let y := x * powerOfTen exponent.natAbs
    if y.isInf then .error .numberOutOfRange else .ok y
  else if significand = 0 then .ok x
  else .error .numberOutOfRange

/-- A number with a sign. -/
def signed (negative : Bool) (x : Float) : Float := if negative then -x else x

/-- The power of ten that is written. -/
def writtenExponent (l : Literal) : Int :=
  match l.exponent with
  | none => 0
  | some (false, digits) => ofDigits digits
  | some (true, digits) => -(ofDigits digits : Int)

/-- The floating point number that is meant: digits before the point that are
left over count as zeros, those after it not at all. -/
def toReal (l : Literal) : Except SyntaxError Number := do
  let (n, left) := absorb 0 l.whole
  let (m, dropped) := absorb n l.fraction
  let places : Int := (l.fraction.length : Int) - dropped.length
  let x ← toFloat m (left.length - places + l.writtenExponent)
  return .real (signed l.negative x)

/-- The number that is meant. Zero with a sign and integers below `-2^63` are
floating point numbers. -/
def value (l : Literal) : Except SyntaxError Number :=
  let n := ofDigits l.whole
  if l.fraction.isEmpty && l.exponent.isNone && n < UInt64.size then
    if !l.negative then .ok (.integer n)
    else if n = 0 ∨ n > UInt64.size / 2 then .ok (.real (-(Float.ofNat n)))
    else .ok (.integer (-(n : Int)))
  else l.toReal

end Literal
end AntTrail.Json
