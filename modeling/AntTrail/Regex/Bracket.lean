import AntTrail.Regex.Escape

/-!
Classes of characters in brackets.

A class is a union of parts, or an operation on two such unions; operations group to
the left. Classes nest. Only a name between colons in a class stands for a class of
its own; outside, a bracket and a colon begin a class like any other.
-/
namespace AntTrail.Regex

/-- The parts of a union, last first. -/
structure Parts where
  span : Span
  reversed : List ClassTree := []

namespace Parts

/-- One more part. -/
def push (u : Parts) (t : ClassTree) : Parts :=
  ⟨⟨if u.reversed.isEmpty then t.span.start else u.span.start, t.span.stop⟩, t :: u.reversed⟩

/-- The union. -/
def tree (u : Parts) : ClassTree :=
  match u.reversed with
  | [] => .nothing u.span
  | [t] => t
  | ts => .union u.span ts.reverse

end Parts

/-- A class that has been opened and not closed. -/
structure OpenClass where
  /-- The bracket and what belongs to the opening of the class. -/
  span : Span
  negated : Bool
  /-- An operation whose right side is being read, and its left side. -/
  pending : Option (ClassOp × ClassTree) := none
  parts : Parts

namespace OpenClass

/-- One more part. -/
def push (o : OpenClass) (t : ClassTree) : OpenClass := { o with parts := o.parts.push t }

/-- What has been read since the bracket. -/
def inside (o : OpenClass) : ClassTree :=
  let right := o.parts.tree
  match o.pending with
  | none => right
  | some (kind, left) => .op ⟨left.span.start, right.span.stop⟩ kind left right

/-- An operation, the right side of which begins at a spot. -/
def operate (o : OpenClass) (kind : ClassOp) (s : Spot) : OpenClass :=
  { o with pending := some (kind, o.inside), parts := ⟨.empty s, []⟩ }

/-- The span of the whole class, if it ends at a spot. -/
def whole (o : OpenClass) (stop : Spot) : Span := ⟨o.span.start, stop⟩

end OpenClass

/-- The names of classes of ASCII characters. -/
def asciiClassNames : List String :=
  ["alnum", "alpha", "ascii", "blank", "cntrl", "digit", "graph", "lower", "print", "punct",
   "space", "upper", "word", "xdigit"]

/-- A class by its name between colons and brackets, and what follows it. -/
def Cursor.asciiClass? (c : Cursor) : Option (ClassTree × Cursor) := do
  let rest ← match c.rest with
    | '[' :: ':' :: rest => some rest
    | _ => none
  let (negated, rest) := match rest with
    | '^' :: rest => (true, rest)
    | rest => (false, rest)
  let name := rest.takeWhile (· ≠ ':')
  guard (rest.dropWhile (· ≠ ':') |> (List.isPrefixOf [':', ']'] ·))
  guard (asciiClassNames.contains (String.ofList name))
  let stop := c.nextMany (name.length + (if negated then 5 else 4))
  return (.ascii (stop.since c.spot) negated, stop)

namespace Reader

/-- Hyphens that stand for themselves, up to the first other character. -/
def leadingHyphens (start : Spot) : (fuel : Nat) → Parts → Reader Parts
  | 0, u => return u
  | fuel + 1, u => do
    let c ← get
    match c.rest with
    | '-' :: _ =>
      step
      needMore .classUnclosed fun _ => .empty start
      leadingHyphens start fuel (u.push (.literal ⟨c.charSpan, '-', false⟩))
    | _ => return u

/-- The opening of a class: the bracket, the sign of a negation, hyphens, and a
closing bracket if it comes first. The latter two stand for themselves. -/
def classOpening : Reader OpenClass := do
  let start := (← get).spot
  let unclosed (c : Cursor) := c.since start
  step
  needMore .classUnclosed unclosed
  let negated := (← get).rest.head? = some '^'
  if negated then
    step
    needMore .classUnclosed unclosed
  let c ← get
  let parts ← leadingHyphens start c.rest.length ⟨c.here, []⟩
  let c ← get
  if parts.reversed.isEmpty && c.rest.head? = some ']' then
    step
    needMore .classUnclosed unclosed
    let parts := parts.push (.literal ⟨c.charSpan, ']', false⟩)
    return ⟨unclosed (← get), negated, none, parts⟩
  else return ⟨unclosed c, negated, none, parts⟩

/-- A character or a class without brackets. -/
def classAtom : Reader Tree := do
  let c ← get
  match c.rest with
  | [] => refuse .escapeEnd c.here
  | '\\' :: _ => escape
  | x :: _ =>
    next
    return .literal ⟨c.charSpan, x, false⟩

/-- An end of a range. -/
def rangeEnd : Tree → Reader Literal
  | .literal l => return l
  | t => refuse .classRangeBoundary t.span

/-- A part that is no range. -/
def singlePart : Tree → Reader ClassTree
  | .literal l => return .literal l
  | .letter c => return .letter c
  | .property s => return .property s
  | t => refuse .classEscape t.span

/-- A range, or a part that is none. The hyphen of a range is followed by neither a
closing bracket nor another hyphen. -/
def classPart (unclosed : Span) : Reader ClassTree := do
  let first ← classAtom
  blanks
  needMore .classUnclosed fun _ => unclosed
  let c ← get
  if c.rest.head? ≠ some '-' ∨ c.second? = some ']' ∨ c.second? = some '-' then singlePart first
  else
    step
    needMore .classUnclosed fun _ => unclosed
    let last ← classAtom
    let span : Span := ⟨first.span.start, last.span.stop⟩
    let low ← rangeEnd first
    let high ← rangeEnd last
    if high.char < low.char then refuse .classRangeCrossed span
    return .range span low high

/-- Reads on in a class and those around it, up to the end of the outermost. Each
round takes a character at least. -/
def classBody : (fuel : Nat) → OpenClass → List OpenClass → Reader Tree
  | 0, o, _ => refuse .classUnclosed o.span
  | fuel + 1, o, outer => do
    blanks
    let c ← get
    let operate (kind : ClassOp) : Reader Tree := do
      next
      next
      classBody fuel (o.operate kind (← get).spot) outer
    match c.rest with
    | [] => refuse .classUnclosed o.span
    | '[' :: _ =>
      match c.asciiClass? with
      | some (t, c) =>
        set c
        classBody fuel (o.push t) outer
      | none => classBody fuel (← classOpening) (o :: outer)
    | ']' :: _ =>
      next
      let span := o.whole (← get).spot
      match outer with
      | [] => return .bracketed span o.negated o.inside
      | around :: outer => classBody fuel (around.push (.bracketed span o.negated o.inside)) outer
    | '&' :: '&' :: _ => operate .intersection
    | '-' :: '-' :: _ => operate .difference
    | '~' :: '~' :: _ => operate .symmetricDifference
    | _ => classBody fuel (o.push (← classPart o.span)) outer

/-- A class in brackets. -/
def bracketed : Reader Tree := do
  let o ← classOpening
  classBody (← get).rest.length.succ o []

end Reader
end AntTrail.Regex
