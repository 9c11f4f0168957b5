import AntTrail.Regex.Pattern
import AntTrail.Text.Alphanumeric
import AntTrail.Text.Blank
import AntTrail.Text.Real

/-!
Log filters: which notes of which part of a program are wanted.

A filter is a list of directives with commas between them. A directive names a
target, a span with fields in brackets, and after an equals sign a level, or it is
a level alone. A field may have a value after an equals sign: a truth value, a number
or a pattern. Only what is not a filter matters here.
-/
namespace AntTrail.LogFilter

/-- Why a text is no filter. -/
inductive Refusal where
  /-- A directive of another form. -/
  | form
  /-- A level that is none. -/
  | level
  /-- A value of a field that is no pattern. -/
  | field (p : Regex.Problem)
deriving DecidableEq, Repr

/-- The reasons why a value or a level is none, from the outermost to the innermost. -/
def Refusal.causes : Refusal → List String
  | form => []
  | level => ["error parsing level filter: expected one of \"off\", \"error\", \"warn\", " ++
      "\"info\", \"debug\", \"trace\", or a number 0-5"]
  | field p => p.reasons

/-- The text that says why. -/
def Refusal.message (r : Refusal) : String :=
  match r with
  | form => "invalid filter directive"
  | level => String.join r.causes
  | field p => "invalid field filter: " ++ p.reasons.headD ""

/-- The names of levels, from the fewest notes to the most. -/
def levelNames : List String := ["off", "error", "warn", "info", "debug", "trace"]

/-- The number of a level in digits, with or without a plus sign. -/
def levelNumber? (text : List Char) : Option Nat :=
  let digits := match text with
    | '+' :: rest => rest
    | rest => rest
  if digits.isEmpty || !digits.all Char.isDigit then none
  else some (digits.foldl (fun n d => n * 10 + (d.toNat - '0'.toNat)) 0)

/-- A level: its name in any case, or its number. -/
def isLevel (text : List Char) : Bool :=
  match levelNumber? text with
  | some n => n < levelNames.length
  | none => levelNames.contains (String.ofList (text.map Char.toLower))

/-- A text without its first bytes. -/
def dropBytes : List Char → Nat → List Char
  | [], _ => []
  | c :: cs, n => if n = 0 then c :: cs else dropBytes cs (n - c.utf8Size)

/-- The first bytes of a text. -/
def takeBytes : List Char → Nat → List Char
  | [], _ => []
  | c :: cs, n => if n < c.utf8Size then [] else c :: takeBytes cs (n - c.utf8Size)

/-- Whether a text is a field: a name, and a value or none. -/
def checkField (text : List Char) : Except Refusal Unit :=
  match text.splitOnP (· == '=') with
  | _ :: value :: _ =>
    if ["true", "false"].contains (String.ofList value) || Text.isReal value then .ok ()
    else (Regex.check (String.ofList value)).mapError .field
  | _ => .ok ()

/-- Where in a directive the next character stands. Beginnings are counted in bytes. -/
inductive Place where
  | start
  /-- In a target, or in a level without one. -/
  | name
  | span
  /-- In a field that began at `begin`. -/
  | field (begin : Nat)
  /-- After the fields. -/
  | fields
  /-- After a span. -/
  | target
  /-- In a level that began at `begin`. -/
  | level (begin : Nat)
deriving DecidableEq, Repr

/-- The place after a character that is `i` bytes from the start; fields are cut out
of `whole`. -/
def Place.next (whole : List Char) (p : Place) (i : Nat) (c : Char) : Except Refusal Place :=
  match p with
  | .start =>
    if c = '[' then .ok .span
    else if c = '-' ∨ c = ':' ∨ c = '_' ∨ Text.isAlphanumeric c then .ok .name
    else .error .form
  | .name => .ok (if c = '=' then .level (i + 1) else if c = '[' then .span else .name)
  | .span => .ok (if c = ']' then .target else if c = '\x7b' then .field (i + 1) else .span)
  | .field begin =>
    if c ≠ '\x7d' then .ok (.field begin)
    else if i = begin then .error .form
    else
      match checkField (takeBytes (dropBytes whole begin) (i - begin)) with
      | .ok () => .ok .fields
      | .error e => .error e
  | .fields => if c = ']' then .ok .target else .error .form
  | .target => if c = '=' then .ok (.level (i + 1)) else .error .form
  | .level begin => .ok (.level begin)

/-- The place after some characters, the first of which is `i` bytes from the start. -/
def Place.after (whole : List Char) (p : Place) (i : Nat) : List Char → Except Refusal Place
  | [] => .ok p
  | c :: cs =>
    match p.next whole i c with
    | .ok p => p.after whole (i + c.utf8Size) cs
    | .error e => .error e

/-- A text without the blanks around it. -/
def trim (cs : List Char) : List Char :=
  ((cs.dropWhile Text.isBlank).reverse.dropWhile Text.isBlank).reverse

/-- Whether a text is a directive. Blanks around it are not looked at, but count
where a field or the level is cut out of it; an empty level is the one with all notes. -/
def checkDirective (cs : List Char) : Except Refusal Unit := do
  match ← Place.start.after cs 0 (trim cs) with
  | .name => return
  | .target => return
  | .level begin =>
    let text := dropBytes cs begin
    if text.isEmpty || isLevel text then return else throw .level
  | _ => throw .form

/-- Whether a text is a filter. Nothing between two commas is no directive. -/
def check (text : String) : Except Refusal Unit :=
  ((text.toList.splitOnP (· == ',')).filter (!·.isEmpty)).forM checkDirective

end AntTrail.LogFilter
