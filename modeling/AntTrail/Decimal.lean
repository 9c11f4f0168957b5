/-!
The shortest decimal that reads back as a given binary number.

A finite number of 64 bits stands for an interval of reals, those nearer to it
than to its neighbours, with the ends when its significand is even. Its shortest
decimal is a number in that interval with as few digits as possible, and of
those the nearest. It is found on the grid of numbers with one digit, with two,
and so on: on each grid only the two neighbours of the value need be tried. All
comparisons are exact, on natural numbers.
-/
namespace AntTrail.Decimal

/-- A positive binary number `significand * 2 ^ exponent`. -/
structure Binary where
  significand : Nat
  exponent : Int
  /-- The neighbour below is at half the distance of the neighbour above. -/
  narrowBelow : Bool
deriving DecidableEq, Repr

/-- The number of which these are the bits, the sign apart. -/
def Binary.ofBits (bits : UInt64) : Binary :=
  let exponent := ((bits >>> 52) &&& 0x7FF).toNat
  let fraction := (bits &&& 0xFFFFFFFFFFFFF).toNat
  if exponent = 0 then ⟨fraction, -1074, false⟩
  else ⟨0x10000000000000 + fraction, (exponent : Int) - 1075, fraction = 0 && exponent > 1⟩

/-- A decimal number `digits * 10 ^ exponent`. -/
structure Value where
  digits : Nat
  exponent : Int
deriving DecidableEq, Repr

/-- Which of two equally near neighbours on a grid is taken. -/
inductive Tie where
  | toEven
  | up
deriving DecidableEq, Repr

/-- A fraction of natural numbers that is `n * 2 ^ i / 10 ^ j`. -/
def scaled (n : Nat) (i j : Int) : Nat × Nat :=
  ((n <<< i.toNat) * Nat.pow 10 (-j).toNat, Nat.pow 10 j.toNat <<< (-i).toNat)

/-- Whether `c * 10 ^ j` lies in the interval for which the number stands. -/
def Binary.readsBack (x : Binary) (c : Nat) (j : Int) : Bool :=
  let below := 4 * x.significand - (if x.narrowBelow then 1 else 2)
  let above := 4 * x.significand + 2
  let (low, den) := scaled below (x.exponent - 2) j
  let (high, _) := scaled above (x.exponent - 2) j
  let mid := c * den
  if x.significand % 2 = 0 then low ≤ mid && mid ≤ high else low < mid && mid < high

/-- The neighbour of the number on the grid of multiples of `10 ^ j` that reads
back as it, if one does; the nearer one if both do. -/
def Binary.onGrid? (x : Binary) (tie : Tie) (j : Int) : Option Nat :=
  let (num, den) := scaled x.significand x.exponent j
  let c := num / den
  match x.readsBack c j, x.readsBack (c + 1) j with
  | false, false => none
  | true, false => some c
  | false, true => some (c + 1)
  | true, true =>
    match compare (2 * num) ((2 * c + 1) * den), tie with
    | .lt, _ => some c
    | .gt, _ => some (c + 1)
    | .eq, .up => some (c + 1)
    | .eq, .toEven => some (if c % 2 = 0 then c else c + 1)

/-- The least `k` with the number below `10 ^ k`. -/
def Binary.scale (x : Binary) : Int :=
  let guess := ((x.significand.log2 : Int) + x.exponent) * 30103 / 100000
  let fits (k : Int) : Bool :=
    let (num, den) := scaled x.significand x.exponent k
    num < den
  (([-1, 0, 1, 2].map (guess + ·)).find? fits).getD (guess + 3)

/-- Zeros at the end of the digits, at most `fuel` of them, moved into the exponent. -/
def stripZeros : (fuel : Nat) → Value → Value
  | 0, d => d
  | fuel + 1, d =>
    if d.digits % 10 = 0 && d.digits != 0 then stripZeros fuel ⟨d.digits / 10, d.exponent + 1⟩ else d

/-- The shortest decimal that reads back as the number. Seventeen digits are
always enough; the exact value stands in for a search without success. -/
def Binary.shortest (x : Binary) (tie : Tie) : Value :=
  let k := x.scale
  let found := (List.range 17).findSome? fun (n : Nat) =>
    let j := k - 1 - (n : Int)
    (x.onGrid? tie j).map fun c => stripZeros 20 ⟨c, j⟩
  found.getD ⟨(x.significand <<< x.exponent.toNat) * Nat.pow 5 (-x.exponent).toNat, min 0 x.exponent⟩

/-! ## Layout -/

/-- How the digits of a number are laid out. -/
structure Layout where
  tie : Tie
  /-- The exponents of the first digit for which the digits stand around a point. -/
  positional : Int → Bool
  /-- A point and a zero after a number without fraction. -/
  pointZero : Bool

/-- Digits around a point. -/
def Layout.writePositional (l : Layout) (digits : List Char) (exponent : Int) : List Char :=
  let n := digits.length
  if 0 ≤ exponent then
    digits ++ List.replicate exponent.toNat '0' ++ (if l.pointZero then ['.', '0'] else [])
  else
    let places := exponent.natAbs
    if places < n then digits.take (n - places) ++ '.' :: digits.drop (n - places)
    else '0' :: '.' :: List.replicate (places - n) '0' ++ digits

/-- Digits with a point after the first, and a power of ten with its sign. -/
def writeScientific (digits : List Char) (exponent : Int) : List Char :=
  let fraction := match digits.drop 1 with
    | [] => []
    | rest => '.' :: rest
  digits.take 1 ++ fraction ++ 'e' :: (if exponent < 0 then '-' else '+') ::
    Nat.toDigits 10 exponent.natAbs

/-- A decimal, laid out. -/
def Layout.write (l : Layout) (d : Value) : List Char :=
  let digits := Nat.toDigits 10 d.digits
  let leading := d.exponent + digits.length - 1
  if l.positional leading then l.writePositional digits d.exponent
  else writeScientific digits leading

/-- The text of a number. -/
def Layout.text (l : Layout) (x : Float) : String :=
  if x.isNaN then "NaN"
  else
    let bits := x.toBits
    let sign := if bits >>> 63 = 0 then [] else ['-']
    let body :=
      if x.isInf then ['i', 'n', 'f']
      else if bits <<< 1 = 0 then l.writePositional ['0'] 0
      else l.write ((Binary.ofBits bits).shortest l.tie)
    String.ofList (sign ++ body)

end AntTrail.Decimal
