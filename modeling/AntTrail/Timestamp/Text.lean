import AntTrail.Timestamp
import AntTrail.Text.Blank

/-!
Instants as text, such as `2024-01-02T03:04:05.120Z`.

Written: four digits for a year from 0 to 9999 and a sign otherwise, always `Z`,
and no, three, six or nine digits of the second's fraction, as few as are exact.
Read more freely: blanks around the numbers, a space for `T`, and any offset from
universal time, which is taken off.
-/
namespace AntTrail.Timestamp

/-! ## Writing -/

/-- A number in at least `width` digits. -/
def padded (width n : Nat) : List Char :=
  let digits := Nat.toDigits 10 n
  List.replicate (width - digits.length) '0' ++ digits

/-- A year: four digits, or a sign and at least four. -/
def writeYear (year : Int) : List Char :=
  if 0 ≤ year ∧ year ≤ 9999 then padded 4 year.toNat
  else (if year < 0 then '-' else '+') :: padded 4 year.natAbs

/-- The fraction of a second, in as few groups of three digits as are exact. -/
def writeFraction (nanosecond : Nat) : List Char :=
  if nanosecond = 0 then []
  else if nanosecond % 1000000 = 0 then '.' :: padded 3 (nanosecond / 1000000)
  else if nanosecond % 1000 = 0 then '.' :: padded 6 (nanosecond / 1000)
  else '.' :: padded 9 nanosecond

/-- The text of an instant. A leap second is second 60. -/
def write (t : Timestamp) : List Char :=
  let date := Date.ofDays t.day
  let leap := t.nanosecond / 1000000000
  writeYear date.year ++ '-' :: padded 2 date.month ++ '-' :: padded 2 date.day ++
    'T' :: padded 2 (t.second / 3600) ++ ':' :: padded 2 (t.second / 60 % 60) ++
    ':' :: padded 2 (t.second % 60 + leap) ++ writeFraction (t.nanosecond % 1000000000) ++ ['Z']

/-- The text of an instant. -/
def text (t : Timestamp) : String := String.ofList t.write

/-! ## Reading -/

/-- Why a text is no instant. -/
inductive ReadError where
  /-- The text ends too early. -/
  | tooShort
  /-- Another character is demanded. -/
  | invalid
  /-- A number is beyond what it may be, or the date does not exist. -/
  | outOfRange
  /-- The instant in universal time is beyond the years that instants can have. -/
  | impossible
  /-- Text after the instant. -/
  | tooLong
deriving DecidableEq, Repr

/-- The text that says why. -/
def ReadError.message : ReadError → String
  | .tooShort => "premature end of input"
  | .invalid => "input contains invalid characters"
  | .outOfRange => "input is out of range"
  | .impossible => "no possible date and time matching input"
  | .tooLong => "trailing input"

/-- The computations that take characters from the front of a text. -/
abbrev Reading := StateT (List Char) (Except ReadError)

/-- Blanks, if any. -/
def skipBlanks : Reading Unit := modify (·.dropWhile Text.isBlank)

/-- One character. -/
def literal (expected : Char) : Reading Unit := do
  match ← get with
  | [] => throw .tooShort
  | c :: rest => if c = expected then set rest else throw .invalid

/-- A number of one to `width` digits at the front, and the text after it. -/
def digits (width : Nat) (cs : List Char) : Except ReadError (List Char × List Char) :=
  match cs with
  | [] => .error .tooShort
  | c :: _ =>
    if c.isDigit then
      let front := (cs.take width).takeWhile Char.isDigit
      .ok (front, cs.drop front.length)
    else .error .invalid

/-- The number that digits write. -/
def value (ds : List Char) : Nat := ds.foldl (fun n d => 10 * n + (d.toNat - '0'.toNat)) 0

/-- A number of at most `width` digits, between `low` and `high`. -/
def number (width low high : Nat) : Reading Nat := do
  skipBlanks
  let (ds, rest) ← digits width (← get)
  set rest
  let n := value ds
  if low ≤ n ∧ n ≤ high then return n else throw .outOfRange

/-- A year: four digits at most, or a sign and any number of digits. -/
def readYear : Reading Int := do
  skipBlanks
  match ← get with
  | '-' :: rest => do
    let (ds, rest) ← digits rest.length rest
    set rest
    bounded (-(value ds : Int))
  | '+' :: rest => do
    let (ds, rest) ← digits rest.length rest
    set rest
    bounded (value ds)
  | cs => do
    let (ds, rest) ← digits 4 cs
    set rest
    return value ds
where
  /-- A year of 32 bits; whether instants can have it is tested with the date. -/
  bounded (year : Int) : Reading Int :=
    if -2147483648 ≤ year ∧ year ≤ 2147483647 then pure year else throw .outOfRange

/-- The fraction of a second, if there is one. Digits after the ninth do not count. -/
def fraction : Reading Nat := do
  match ← get with
  | '.' :: rest => do
    let (ds, rest) ← digits 9 rest
    set (rest.dropWhile Char.isDigit)
    return value ds * Nat.pow 10 (9 - ds.length)
  | _ => return 0

/-- Two characters, of which the first is a digit not above `high` and the second a digit. -/
def twoDigits (high : Char) : Reading Nat := do
  match ← get with
  | [] => throw .tooShort
  | [c] => if c.toNat < 0x80 then throw .tooShort else throw .invalid
  | c :: d :: rest =>
    if !c.isDigit || !d.isDigit then throw .invalid
    else if high < c then throw .outOfRange
    else do
      set rest
      return value [c, d]

/-- The offset of a clock from universal time, in seconds. -/
def offset : Reading Int := do
  skipBlanks
  let cs ← get
  if (cs.take 3).map Char.toUpper = ['U', 'T', 'C'] then
    set (cs.drop 3)
    return 0
  match cs with
  | [] => throw .tooShort
  | c :: rest =>
    if c = 'Z' ∨ c = 'z' then
      set rest
      return 0
    else if c = '+' then
      set rest
      clock
    else if c = '-' ∨ c = '\u2212' then
      set rest
      return -(← clock)
    else throw .invalid
where
  /-- Hours and minutes, between them colons and blanks. -/
  clock : Reading Int := do
    let hours ← twoDigits '9'
    modify (·.dropWhile fun c => c = ':' || Text.isBlank c)
    let minutes ← twoDigits '5'
    return 3600 * hours + 60 * minutes

/-- An instant at the front of a text. The date and the offset are tested when
all has been read. -/
def readInstant : Reading Timestamp := do
  let year ← readYear
  skipBlanks
  literal '-'
  let month ← number 2 1 12
  skipBlanks
  literal '-'
  let day ← number 2 1 31
  match ← get with
  | [] => throw .tooShort
  | c :: rest => if c = 'T' ∨ c = 't' ∨ c = ' ' then set rest else throw .invalid
  let hour ← number 2 0 23
  skipBlanks
  literal ':'
  let minute ← number 2 0 59
  skipBlanks
  literal ':'
  let second ← number 2 0 60
  let nanosecond ← fraction
  let offset ← offset
  if !(← get).all Text.isBlank then throw .tooLong
  let date : Date := ⟨year, month, day⟩
  if !date.valid then throw .outOfRange
  if offset.natAbs ≥ 86400 then throw .outOfRange
  let leap := second / 60
  let here : Timestamp :=
    ⟨date.toDays, 3600 * hour + 60 * minute + second - leap, nanosecond + leap * 1000000000⟩
  let there := here.shift (-offset)
  if there.inRange then return there else throw .impossible

/-- Reads an instant from text. -/
def read (s : String) : Except ReadError Timestamp := readInstant.run' s.toList

end AntTrail.Timestamp
