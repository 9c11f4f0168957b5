/-!
Reading bytes as text in UTF-8, and saying where they are not.

A character is one to four bytes. What the next byte may be depends only on what
is owed: nothing (a new character), or a number of continuation bytes, of which
the first has a narrower range after some leading bytes. Bytes that are not text
are described by where the first bad character starts and how many bytes of it
belong together; a character cut off by the end has no such number.
-/
namespace AntTrail.Text.Utf8

/-- Where bytes stop being text. -/
structure Malformed where
  /-- The place of the first byte of the bad character. -/
  start : Nat
  /-- The number of bytes to blame, or `none` when the bytes end too early. -/
  length : Option Nat
deriving DecidableEq, Repr

/-- The text that says where. -/
def Malformed.message (m : Malformed) : String :=
  match m.length with
  | some n => s!"invalid utf-8 sequence of {n} bytes from index {m.start}"
  | none => s!"incomplete utf-8 byte sequence from index {m.start}"

/-- A demand on the next bytes of a character: the range of the next one, and
how many more follow it. -/
structure Owed where
  low : Nat
  high : Nat
  more : Nat

/-- What a leading byte demands: `none` if it leads no character, nothing owed
if it is a character of its own. -/
def leading (b : Nat) : Option (Option Owed) :=
  if b ≤ 0x7F then some none
  else if 0xC2 ≤ b ∧ b ≤ 0xDF then some (some ⟨0x80, 0xBF, 0⟩)
  else if b = 0xE0 then some (some ⟨0xA0, 0xBF, 1⟩)
  else if b = 0xED then some (some ⟨0x80, 0x9F, 1⟩)
  else if 0xE1 ≤ b ∧ b ≤ 0xEF then some (some ⟨0x80, 0xBF, 1⟩)
  else if b = 0xF0 then some (some ⟨0x90, 0xBF, 2⟩)
  else if 0xF1 ≤ b ∧ b ≤ 0xF3 then some (some ⟨0x80, 0xBF, 2⟩)
  else if b = 0xF4 then some (some ⟨0x80, 0x8F, 2⟩)
  else none

/-- What is owed after one more byte. -/
def Owed.next (o : Owed) : Option Owed :=
  match o.more with
  | 0 => none
  | n + 1 => some ⟨0x80, 0xBF, n⟩

/-- The first bad character of the bytes from `start` on; `seen` bytes of a
character that still owes `owed` have been read. -/
def firstBad (start seen : Nat) : Option Owed → List UInt8 → Option Malformed
  | none, [] => none
  | some _, [] => some ⟨start, none⟩
  | none, b :: bs =>
    match leading b.toNat with
    | none => some ⟨start, some 1⟩
    | some none => firstBad (start + 1) 0 none bs
    | some (some o) => firstBad start 1 (some o) bs
  | some o, b :: bs =>
    if o.low ≤ b.toNat ∧ b.toNat ≤ o.high then
      match o.next with
      | none => firstBad (start + seen + 1) 0 none bs
      | some o' => firstBad start (seen + 1) (some o') bs
    else some ⟨start, some seen⟩

/-- The bytes as text, or where they stop being text. -/
def decode (bs : List UInt8) : Except Malformed String :=
  match String.fromUTF8? ⟨bs.toArray⟩ with
  | some s => .ok s
  | none => .error ((firstBad 0 0 none bs).getD ⟨bs.length, none⟩)

/-- The bytes of a text. -/
def encode (s : String) : List UInt8 := s.toUTF8.data.toList

end AntTrail.Text.Utf8
