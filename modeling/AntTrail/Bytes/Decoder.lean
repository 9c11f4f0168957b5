import AntTrail.Bytes.LittleEndian
import AntTrail.Text.Utf8
import AntTrail.Timestamp.Text

/-!
Reading stored values from bytes.

A decoder takes bytes from the front and leaves the rest, so that decoders can
follow each other. Numbers have a fixed width, least significant byte first; a
text and a list are preceded by their length in eight bytes; an optional value
is preceded by a byte, 0 for its absence.
-/
namespace AntTrail.Bytes

/-- Why bytes cannot be decoded. -/
inductive DecodeError where
  /-- The bytes end inside a number. -/
  | endOfBytes
  /-- The bytes end inside a text. -/
  | endOfText
  /-- A number beyond those of `count` alternatives. -/
  | unknownVariant (index count : Nat)
  /-- A byte that marks neither presence nor absence. -/
  | unknownMark (mark : Nat)
  /-- Bytes that are no text. -/
  | malformedText (m : Text.Utf8.Malformed)
  /-- A text that is no instant. -/
  | malformedInstant (e : Timestamp.ReadError)
deriving DecidableEq, Repr

/-- The text that says why. -/
def DecodeError.message : DecodeError → String
  | .endOfBytes => "io error: unexpected end of file"
  | .endOfText => "io error: "
  | .unknownVariant index count =>
    s!"invalid value: integer `{index}`, expected variant index 0 <= i < {count}"
  | .unknownMark mark => s!"tag for enum is not valid, found {mark}"
  | .malformedText m => s!"string is not valid utf8: {m.message}"
  | .malformedInstant e => e.message

/-- The computations that take bytes from the front. -/
abbrev Decoder := StateT (List UInt8) (Except DecodeError)

/-- The first `n` bytes and the rest, if there are so many. -/
def split : Nat → List UInt8 → Option (List UInt8 × List UInt8)
  | 0, bs => some ([], bs)
  | _ + 1, [] => none
  | n + 1, b :: bs => (split n bs).map fun (front, rest) => (b :: front, rest)

namespace Decoder

/-- The next `n` bytes; `e` if there are fewer. -/
def take (e : DecodeError) (n : Nat) : Decoder (List UInt8) := do
  match split n (← get) with
  | some (front, rest) =>
    set rest
    return front
  | none => throw e

/-- A number of `width` bytes. -/
def number (width : Nat) : Decoder Nat := ofLittleEndian <$> take .endOfBytes width

/-- A number of one byte. -/
def uint8 : Decoder UInt8 := UInt8.ofNat <$> number 1

/-- A number of four bytes. -/
def uint32 : Decoder UInt32 := UInt32.ofNat <$> number 4

/-- A number of eight bytes. -/
def uint64 : Decoder UInt64 := UInt64.ofNat <$> number 8

/-- A signed number of four bytes, in two's complement. -/
def int32 : Decoder Int32 := UInt32.toInt32 <$> uint32

/-- A text. -/
def text : Decoder String := do
  let length ← number 8
  let bs ← take .endOfText length
  match Text.Utf8.decode bs with
  | .ok s => return s
  | .error m => throw (.malformedText m)

/-- An instant, stored as text. -/
def instant : Decoder Timestamp := do
  let s ← text
  match Timestamp.read s with
  | .ok t => return t
  | .error e => throw (.malformedInstant e)

/-- `n` values, one after the other. -/
def many {α : Type} (item : Decoder α) : Nat → Decoder (List α)
  | 0 => return []
  | n + 1 => do
    let x ← item
    let xs ← many item n
    return x :: xs

/-- A list of values. -/
def list {α : Type} (item : Decoder α) : Decoder (List α) := do
  let length ← number 8
  many item length

/-- An optional value. -/
def optional {α : Type} (item : Decoder α) : Decoder (Option α) := do
  let mark ← uint8
  if mark = 0 then return none
  else if mark = 1 then return some (← item)
  else throw (.unknownMark mark.toNat)

end Decoder

/-! ## Writing -/

/-- A text: its length and its bytes. -/
def encodeText (s : String) : List UInt8 :=
  let bs := Text.Utf8.encode s
  littleEndian 8 bs.length ++ bs

/-- A list: its length and its members. -/
def encodeList {α : Type} (item : α → List UInt8) (xs : List α) : List UInt8 :=
  littleEndian 8 xs.length ++ xs.flatMap item

/-- An optional value: a mark, and the value if there is one. -/
def encodeOptional {α : Type} (item : α → List UInt8) : Option α → List UInt8
  | none => [0]
  | some x => 1 :: item x

/-- A signed number of four bytes. -/
def encodeInt32 (n : Int32) : List UInt8 := littleEndian 4 n.toUInt32.toNat

/-- A number of eight bytes. -/
def encodeUInt64 (n : UInt64) : List UInt8 := littleEndian 8 n.toNat

/-- A number of four bytes. -/
def encodeUInt32 (n : UInt32) : List UInt8 := littleEndian 4 n.toNat

end AntTrail.Bytes
