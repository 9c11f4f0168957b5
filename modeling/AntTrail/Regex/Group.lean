import AntTrail.Regex.Cursor
import AntTrail.Regex.Tree
import AntTrail.Text.Numeral

/-!
What a parenthesis opens: a group, with a name or flags of its own, or a list of flags
for the rest of the group around it.

A pattern comes out of a field, so it has no equals sign: of looking around only the
negative forms can be written.
-/
namespace AntTrail.Regex

/-- What a parenthesis opens. -/
inductive Opening where
  /-- Flags for the rest of the group around them. -/
  | flags (items : List FlagItem)
  /-- A group without a name, with flags of its own. -/
  | group (items : List FlagItem)
  | named (name : List Char) (span : Span)
deriving Repr

/-- The flag for which a letter stands. -/
def Flag.ofLetter? : Char → Option Flag
  | 'i' => some .ignoreCase
  | 'm' => some .multiLine
  | 's' => some .dotMatchesNewLine
  | 'U' => some .swapGreed
  | 'u' => some .unicode
  | 'R' => some .anyLineEnd
  | 'x' => some .freeSpacing
  | _ => none

/-- Whether a character may stand in a name. -/
def isNameChar (isFirst : Bool) (c : Char) : Bool :=
  c == '_' ||
    (if isFirst then Text.isLetter c
      else c == '.' || c == '[' || c == ']' || Text.isAlphanumeric c)

namespace Reader

/-- A name, up to the angle bracket behind it. -/
def groupName : Reader Opening := do
  let c ← get
  let name := c.rest.takeWhile (· ≠ '>')
  if let some (_, i) := name.zipIdx.find? fun (x, i) => !isNameChar (i == 0) x then
    refuse .nameCharacter (c.nextMany i).charSpan
  let stop := c.nextMany name.length
  if stop.rest.isEmpty then refuse .nameEnd stop.here
  if name.isEmpty then refuse .nameEmpty c.here
  set stop.next
  return .named name (stop.since c.spot)

/-- Flags up to a colon or a closing parenthesis, after some others, the last of which
comes first. Each round takes a character. -/
def flagItems : (fuel : Nat) → List (FlagItem × Span) → Reader (List FlagItem)
  | 0, _ => do refuse .flagEnd (← get).here
  | fuel + 1, read => do
    let c ← get
    match c.rest with
    | [] => refuse .flagEnd c.here
    | x :: _ =>
      if x = ':' ∨ x = ')' then
        match read with
        | (.negation, s) :: _ => refuse .flagNegationDangling s
        | _ => return (read.map Prod.fst).reverse
      let item ← match x, Flag.ofLetter? x with
        | '-', _ => pure FlagItem.negation
        | _, some f => pure (FlagItem.flag f)
        | _, none => refuse .flagUnknown c.charSpan
      if let some (_, earlier) := read.find? (·.1 == item) then
        refuse (if item = .negation then .flagNegationTwice else .flagTwice) c.charSpan
          (some earlier)
      next
      needMore .flagEnd Cursor.here
      flagItems fuel ((item, c.charSpan) :: read)

/-- What a parenthesis opens, from the parenthesis on. An empty list of flags is taken
for the sign of a repetition. -/
def opening : Reader Opening := do
  let paren ← get
  next
  blanks
  let c ← get
  match c.rest with
  | '?' :: '!' :: _ => refuse .lookAround ((c.nextMany 2).since paren.spot)
  | '?' :: '<' :: '!' :: _ => refuse .lookAround ((c.nextMany 3).since paren.spot)
  | '?' :: 'P' :: '<' :: _ =>
    set (c.nextMany 3)
    groupName
  | '?' :: '<' :: _ =>
    set (c.nextMany 2)
    groupName
  | '?' :: _ =>
    next
    needMore .groupUnclosed fun _ => paren.charSpan
    let items ← flagItems c.rest.length []
    let isGroup := (← get).rest.head? = some ':'
    next
    if isGroup then return .group items
    else if items.isEmpty then refuse .repetitionMissing c.here
    else return .flags items
  | _ => return .group []

end Reader
end AntTrail.Regex
