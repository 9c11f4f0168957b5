import AntTrail.Json.SyntaxError
import AntTrail.Text.Hexadecimal

/-!
Strings: the characters between quotation marks.

A place in a string is plain, right after a backslash, or among the four digits
of a code unit. `readString` gives the text and pairs surrogates; `skipString` only
finds the end and does not mind a surrogate without its partner.
-/
namespace AntTrail.Json

/-- Where in a string the next character stands. -/
inductive Place where
  | plain
  /-- After a backslash. -/
  | escape
  /-- Among the digits of a code unit: their number and value so far. -/
  | unit (count value : Nat)
deriving DecidableEq, Repr

/-- What has been written when a character is complete. -/
inductive Piece where
  | char (c : Char)
  /-- A UTF-16 code unit. -/
  | unit (n : Nat)
deriving DecidableEq, Repr

/-- The character for which a backslash and a letter stand. -/
def escaped? (c : Char) : Option Char :=
  match c with
  | '"' => some '"'
  | '\\' => some '\\'
  | '/' => some '/'
  | 'b' => some '\x08'
  | 'f' => some '\x0c'
  | 'n' => some '\n'
  | 'r' => some '\r'
  | 't' => some '\t'
  | _ => none

/-- The number of bytes of some characters. -/
def byteCount (cs : List Char) : Nat := cs.foldr (fun c n => c.utf8Size + n) 0

/-- What character `c` does at a place, with `rest` after it: a piece that it
completes, and the place after it. A code unit is four bytes; that there are
fewer is said before that they are no digits. -/
def Place.advance (p : Place) (c : Char) (rest : List Char) :
    Except SyntaxError (Option Piece × Place) :=
  match p with
  | .plain =>
    if c = '\\' then .ok (none, .escape)
    else if c.toNat < 0x20 then .error .controlCharacter
    else .ok (some (.char c), .plain)
  | .escape =>
    if c = 'u' then .ok (none, .unit 0 0)
    else match escaped? c with
      | some d => .ok (some (.char d), .plain)
      | none => .error .invalidEscape
  | .unit count value =>
    match Text.hexDigit? c with
    | none =>
      if count + byteCount (c :: rest) < 4 then .error .endOfString else .error .invalidEscape
    | some d =>
      if count < 3 then .ok (none, .unit (count + 1) (value * 16 + d))
      else .ok (some (.unit (value * 16 + d)), .plain)

/-- What stands after a string, from a place in it on. -/
def skipString : Place → List Char → Except SyntaxError (List Char)
  | _, [] => .error .endOfString
  | p, c :: rest =>
    if p = .plain ∧ c = '"' then .ok rest
    else match p.advance c rest with
      | .ok (_, p) => skipString p rest
      | .error e => .error e

/-! ## Reading -/

/-- Leading halves of surrogate pairs. -/
def isLeading (n : Nat) : Bool := 0xD800 ≤ n && n ≤ 0xDBFF

/-- Trailing halves. -/
def isTrailing (n : Nat) : Bool := 0xDC00 ≤ n && n ≤ 0xDFFF

/-- Whether a leading half can still be completed: its partner is written as a
code unit too. -/
def Place.continues (p : Place) (c : Char) : Bool :=
  match p with
  | .plain => c == '\\'
  | .escape => c == 'u'
  | .unit .. => true

/-- A piece after a leading half that waits for its partner, or after none: the
half that waits now, and the character that is complete. -/
def join (waiting : Option Nat) (p : Piece) : Except SyntaxError (Option Nat × Option Char) :=
  match waiting, p with
  | none, .char c => .ok (none, some c)
  | none, .unit n =>
    if isLeading n then .ok (some n, none)
    else if isTrailing n then .error .loneSurrogate
    else .ok (none, some (Char.ofNat n))
  | some _, .char _ => .error .unfinishedPair
  | some high, .unit n =>
    if isTrailing n then
      .ok (none, some (Char.ofNat (0x10000 + (high - 0xD800) * 0x400 + (n - 0xDC00))))
    else .error .loneSurrogate

/-- The characters of a string from a place in it on, and what stands after the
string. -/
def readString (waiting : Option Nat) (p : Place) :
    List Char → Except SyntaxError (List Char × List Char)
  | [] => .error .endOfString
  | c :: rest =>
    if waiting.isSome && !p.continues c then .error .unfinishedPair
    else if p = .plain ∧ c = '"' then .ok ([], rest)
    else do
      let (piece, p) ← p.advance c rest
      let (waiting, complete) ← match piece with
        | some piece => join waiting piece
        | none => pure (waiting, none)
      let (cs, after) ← readString waiting p rest
      return (complete.toList ++ cs, after)

end AntTrail.Json
