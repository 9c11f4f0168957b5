import AntTrail.Regex.Cursor
import AntTrail.Regex.Tree
import AntTrail.Text.Hexadecimal

/-!
What stands after a backslash.

A pattern comes out of braces, so it has no closing brace: whatever an opening one
begins has no end.
-/
namespace AntTrail.Regex
namespace Reader

/-- Whether a character stands for itself after a backslash. -/
def isPlainEscape (c : Char) : Bool :=
  c.toNat < 128 && !c.isAlphanum && c ≠ '<' && c ≠ '>'

/-- Hexadecimal digits after a value. -/
def hexDigits : (count value : Nat) → Reader Nat
  | 0, value => return value
  | count + 1, value => do
    let c ← get
    match c.rest with
    | [] => refuse .escapeEnd c.here
    | x :: _ =>
      match Text.hexDigit? x with
      | none => refuse .hexDigit c.charSpan
      | some digit =>
        step
        hexDigits count (value * 16 + digit)

/-- A character by its number, from the letter before the number on. -/
def hexadecimal (start : Spot) (count : Nat) : Reader Literal := do
  step
  needMore .escapeEnd Cursor.here
  let c ← get
  if c.rest.head? = some '{' then
    let (_, stop) := c.step.stepWhile fun x => (Text.hexDigit? x).isSome
    if stop.rest.isEmpty then refuse .escapeEnd (stop.since c.spot)
    else refuse .hexDigit stop.charSpan
  else
    let value ← hexDigits count 0
    let stop ← get
    if value.isValidChar then return ⟨stop.since start, Char.ofNat value, count == 2⟩
    else refuse .hexNoCharacter (stop.since c.spot)

/-- A class of characters with a property, from the letter before its name on. -/
def property (start : Spot) : Reader Tree := do
  step
  needMore .escapeEnd Cursor.here
  let c ← get
  match c.rest with
  | '{' :: _ => refuse .escapeEnd (c.stepWhile fun _ => true).2.here
  | '\\' :: _ => refuse .propertyBackslash c.charSpan
  | _ =>
    step
    return .property ((← get).since start)

/-- A boundary of words. A brace after it begins the name of a special one if a
letter or a hyphen follows. -/
def wordBoundary (span : Span) : Reader Tree := do
  let c ← get
  if c.rest.head? = some '{' then
    let name := c.step
    if name.rest.isEmpty then refuse .boundaryEnd (name.since span.start)
    let (letters, stop) := name.stepWhile fun x => x.isAlpha || x == '-'
    if !letters.isEmpty then refuse .boundaryUnclosed (stop.since c.spot)
  return .assertion span .wordBoundary

/-- What stands after a backslash, from the backslash on. -/
def escape : Reader Tree := do
  let start := (← get).spot
  next
  let c ← get
  match c.rest with
  | [] => refuse .escapeEnd (c.since start)
  | x :: _ =>
    let span : Span := ⟨start, c.charSpan.stop⟩
    if x.isDigit then refuse .backreference span
    else if x = 'x' then return .literal (← hexadecimal start 2)
    else if x = 'u' then return .literal (← hexadecimal start 4)
    else if x = 'U' then return .literal (← hexadecimal start 8)
    else if x = 'p' ∨ x = 'P' then property start
    else
      next
      if isPlainEscape x then return .literal ⟨span, x, false⟩
      else match x with
        | 'd' | 's' | 'w' => return .letter ⟨span, false⟩
        | 'D' | 'S' | 'W' => return .letter ⟨span, true⟩
        | 'a' => return .literal ⟨span, '\x07', false⟩
        | 'f' => return .literal ⟨span, '\x0c', false⟩
        | 't' => return .literal ⟨span, '\t', false⟩
        | 'n' => return .literal ⟨span, '\n', false⟩
        | 'r' => return .literal ⟨span, '\r', false⟩
        | 'v' => return .literal ⟨span, '\x0b', false⟩
        | 'A' | 'z' => return .assertion span .edge
        | 'b' => wordBoundary span
        | 'B' | '<' | '>' => return .assertion span .wordBoundary
        | _ => refuse .escapeUnknown span

end Reader
end AntTrail.Regex
