import AntTrail.Regex.Bracket
import AntTrail.Regex.Group

/-!
Reading patterns.

A pattern is a choice of branches, and a branch a sequence of parts. A sign of
repetition belongs to the part before it. Of two mistakes the one that is met first
counts; that a group has no end is met last.
-/
namespace AntTrail.Regex

/-- A choice in the making. -/
structure Branches where
  start : Spot
  /-- The branches before the present one, last first. -/
  before : List Tree := []
  /-- Where the present branch starts. -/
  branchStart : Spot := start
  /-- The parts of the present branch, last first. -/
  parts : List Tree := []

namespace Branches

/-- One more part. -/
def push (b : Branches) (t : Tree) : Branches := { b with parts := t :: b.parts }

/-- The present branch, if it ends at a spot. -/
def branch (b : Branches) (stop : Spot) : Tree :=
  match b.parts with
  | [] => .empty ⟨b.branchStart, stop⟩
  | [t] => t
  | ts => .concat ⟨b.branchStart, stop⟩ ts.reverse

/-- A new branch, if the present one ends at a spot and the new one starts at another. -/
def split (b : Branches) (stop start : Spot) : Branches :=
  { b with before := b.branch stop :: b.before, branchStart := start, parts := [] }

/-- The choice, if it ends at a spot. -/
def tree (b : Branches) (stop : Spot) : Tree :=
  match b.before with
  | [] => b.branch stop
  | before => .choice ⟨b.start, stop⟩ (b.branch stop :: before).reverse

end Branches

/-- A group that has been opened and not closed. -/
structure OpenGroup where
  /-- Its parenthesis. -/
  span : Span
  items : List FlagItem
  /-- The choice around it. -/
  around : Branches
  /-- Whether free spacing holds around it. -/
  freeSpacing : Bool

/-- A pattern in the making. -/
structure Draft where
  inner : Branches
  /-- The open groups, innermost first. -/
  groups : List OpenGroup := []
  /-- The names of groups and where they stand. -/
  names : List (List Char × Span) := []

/-- The draft with one more part. -/
def Draft.push (d : Draft) (t : Tree) : Draft := { d with inner := d.inner.push t }

/-- The most that can be counted. -/
def maxCount : Nat := 4294967295

namespace Reader

/-- The part that is repeated, and the draft without it. -/
def repeated (d : Draft) : Reader (Tree × Draft) := do
  match d.inner.parts with
  | [] | .flags .. :: _ => refuse .repetitionMissing (← get).here
  | t :: parts => return (t, { d with inner := { d.inner with parts } })

/-- A repetition by a single sign, behind which a question mark may stand. -/
def repetition (d : Draft) : Reader Draft := do
  let (t, d) ← repeated d
  next
  if (← get).rest.head? = some '?' then next
  return d.push (.repetition ⟨t.span.start, (← get).spot⟩ t)

/-- A repetition with a count in braces. The closing brace is never there. -/
def countedRepetition (d : Draft) : Reader Draft := do
  discard <| repeated d
  let start := (← get).spot
  let unclosed (c : Cursor) := c.since start
  step
  needMore .countUnclosed unclosed
  let first := (← get).overBlanks
  let (digits, last) := first.stepWhile Char.isDigit
  let stop := last.overBlanks
  let count := digits.foldl (fun n x => n * 10 + (x.toNat - '0'.toNat)) 0
  if stop.rest.isEmpty then refuse .countUnclosed (unclosed stop)
  else if digits.isEmpty then refuse .countEmpty (last.since first.spot)
  else if maxCount < count then refuse .decimalInvalid (last.since first.spot)
  else refuse .countUnclosed (unclosed stop)

/-- Sets free spacing as flags say. -/
def setFreeSpacing (items : List FlagItem) : Reader Unit :=
  modify fun c => { c with freeSpacing := (FlagItem.state? items .freeSpacing).getD c.freeSpacing }

/-- A group, or flags in parentheses. -/
def openGroup (d : Draft) : Reader Draft := do
  let paren ← get
  let enter (items : List FlagItem) (names : List (List Char × Span)) : Reader Draft := do
    setFreeSpacing items
    let group : OpenGroup := ⟨paren.charSpan, items, d.inner, paren.freeSpacing⟩
    return { inner := { start := (← get).spot }, groups := group :: d.groups, names }
  match ← opening with
  | .flags items =>
    setFreeSpacing items
    return d.push (.flags ((← get).since paren.spot) items)
  | .group items => enter items d.names
  | .named name span =>
    match d.names.find? (·.1 == name) with
    | some (_, earlier) => refuse .nameTwice span (some earlier)
    | none => enter [] ((name, span) :: d.names)

/-- The end of a group. -/
def closeGroup (d : Draft) : Reader Draft := do
  let c ← get
  match d.groups with
  | [] => refuse .groupUnopened c.charSpan
  | g :: groups =>
    modify fun c => { c with freeSpacing := g.freeSpacing }
    next
    let t := .group ⟨g.span.start, (← get).spot⟩ g.items (d.inner.tree c.spot)
    return { d with inner := g.around.push t, groups }

/-- The next part, or what joins parts. -/
def part (d : Draft) : Reader Draft := do
  let c ← get
  match c.rest with
  | [] => return d
  | x :: _ =>
    match x with
    | '(' => openGroup d
    | ')' => closeGroup d
    | '|' =>
      next
      return { d with inner := d.inner.split c.spot (← get).spot }
    | '[' => return d.push (← bracketed)
    | '?' | '*' | '+' => repetition d
    | '{' => countedRepetition d
    | '\\' => return d.push (← escape)
    | _ =>
      next
      return d.push <| match x with
        | '.' => .dot c.charSpan
        | '^' | '$' => .assertion c.charSpan .edge
        | _ => .literal ⟨c.charSpan, x, false⟩

/-- Reads on up to the end. Each round takes a character at least. -/
def pattern : (fuel : Nat) → Draft → Reader Tree
  | 0, d => return d.inner.tree (← get).spot
  | fuel + 1, d => do
    blanks
    let c ← get
    if c.rest.isEmpty then
      match d.groups with
      | g :: _ => refuse .groupUnclosed g.span
      | [] => return d.inner.tree c.spot
    else pattern fuel (← part d)

end Reader

/-- Reads a pattern. -/
def Tree.ofText (text : String) : Except Refusal Tree :=
  let chars := text.toList
  (Reader.pattern chars.length.succ { inner := { start := {} } }).run' { rest := chars }

end AntTrail.Regex
