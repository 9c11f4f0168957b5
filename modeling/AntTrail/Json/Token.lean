import AntTrail.Json.Number
import AntTrail.Json.Quotation

/-!
Tokens: a JSON text as a list of brackets, marks, strings and other plain values.

Whether a token can be used depends on who asks: a string with half a surrogate
pair can be skipped, but not read. A token therefore carries both answers, and
cutting a text into tokens never fails. After a token that can neither be read
nor skipped, or a character that begins none, there are no more.
-/
namespace AntTrail.Json

/-- A value as it is written. -/
inductive Written (α : Type) where
  | sound (a : α)
  /-- Complete, so that it can be skipped, but without meaning. -/
  | unreadable (e : SyntaxError)
  /-- Not complete: the error for a reader, and the error for one who skips it. -/
  | broken (read skipped : SyntaxError)

namespace Written

/-- The value, for a reader. -/
def read {α : Type} : Written α → Except SyntaxError α
  | sound a => .ok a
  | unreadable e => .error e
  | broken e _ => .error e

/-- Whether the value can be skipped. -/
def skip {α : Type} : Written α → Except SyntaxError Unit
  | sound _ => .ok ()
  | unreadable _ => .ok ()
  | broken _ e => .error e

end Written

/-- Values that are neither strings nor between brackets. -/
inductive Atom where
  | null
  | bool (b : Bool)
  | number (n : Number)

/-- The tokens of a text. -/
inductive Token where
  | opening (b : Bracket)
  | closing (b : Bracket)
  | comma
  | colon
  | string (s : Written String)
  | atom (a : Written Atom)
  /-- A character that begins no token. -/
  | stray

namespace Token

/-- The characters between tokens. -/
def isSpace (c : Char) : Bool := c == ' ' || c == '\n' || c == '\t' || c == '\r'

/-- What stands after the rest of a word. -/
def scanWord : List Char → List Char → Except SyntaxError (List Char)
  | [], rest => .ok rest
  | _ :: _, [] => .error .endOfValue
  | w :: ws, c :: rest => if w = c then scanWord ws rest else .error .expectedWord

/-- A word of which the first letter has been read, and what stands after it. -/
def ofWord (letters : List Char) (value : Atom) (rest : List Char) : Token × List Char :=
  match scanWord letters rest with
  | .ok after => (.atom (.sound value), after)
  | .error e => (.atom (.broken e e), [])

/-- A number after its sign, and what stands after it. -/
def ofNumber (negative : Bool) (cs : List Char) : Token × List Char :=
  match Literal.scan negative cs with
  | .error e => (.atom (.broken e .invalidNumber), [])
  | .ok (literal, after) =>
    match literal.value with
    | .ok n => (.atom (.sound (.number n)), after)
    | .error e => (.atom (.unreadable e), after)

/-- A string after its first quotation mark, and what stands after it. -/
def ofString (cs : List Char) : Token × List Char :=
  match skipString .plain cs, readString none .plain cs with
  | .ok after, .ok (s, _) => (.string (.sound (String.ofList s)), after)
  | .ok after, .error e => (.string (.unreadable e), after)
  | .error e, .ok _ => (.string (.broken e e), [])
  | .error e, .error e' => (.string (.broken e' e), [])

/-- The token that begins with `c`, and what stands after it. -/
def beginning (c : Char) (rest : List Char) : Token × List Char :=
  match c with
  | '[' => (.opening .list, rest)
  | ']' => (.closing .list, rest)
  | '\x7b' => (.opening .record, rest)
  | '\x7d' => (.closing .record, rest)
  | ',' => (.comma, rest)
  | ':' => (.colon, rest)
  | '"' => ofString rest
  | 'n' => ofWord ['u', 'l', 'l'] .null rest
  | 't' => ofWord ['r', 'u', 'e'] (.bool true) rest
  | 'f' => ofWord ['a', 'l', 's', 'e'] (.bool false) rest
  | '-' => ofNumber true rest
  | _ => if c.isDigit then ofNumber false (c :: rest) else (.stray, [])

/-- The next token, and what stands after it. -/
def next? (cs : List Char) : Option (Token × List Char) :=
  match cs.dropWhile isSpace with
  | [] => none
  | c :: rest => some (beginning c rest)

/-- At most `fuel` tokens from the front of a text. -/
def takeFrom : (fuel : Nat) → List Char → List Token
  | 0, _ => []
  | fuel + 1, cs =>
    match next? cs with
    | none => []
    | some (t, rest) => t :: takeFrom fuel rest

/-- The tokens of a text; there are at most as many as it has characters. -/
def ofText (text : String) : List Token := takeFrom text.length text.toList

end Token
end AntTrail.Json
