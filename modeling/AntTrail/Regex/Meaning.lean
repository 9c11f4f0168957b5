import AntTrail.Regex.Refusal
import AntTrail.Regex.Tree

/-!
What the parts of a pattern stand for, as far as it can be worked out.

A pattern is matched against text, by characters or, with the Unicode flag switched
off, by bytes. By characters only literals and the classes made of them are known:
digits, blanks and words of all scripts, properties, and letters in either case are
not. By bytes nothing may match what is part of no character.
-/
namespace AntTrail.Regex

/-- The flags that decide what parts stand for. -/
structure Mode where
  ignoreCase : Bool := false
  unicode : Bool := true
  /-- A boundary of words of all scripts has been met. -/
  unicodeBoundary : Bool := false
deriving DecidableEq, Repr

namespace Mode

/-- The flags after some have been set. -/
def set (m : Mode) (items : List FlagItem) : Mode :=
  { m with
    ignoreCase := (FlagItem.state? items .ignoreCase).getD m.ignoreCase
    unicode := (FlagItem.state? items .unicode).getD m.unicode }

/-- Whether both cases of all characters are wanted. -/
def foldsUnicode (m : Mode) : Bool := m.unicode && m.ignoreCase

end Mode

/-- Which characters are in a class. -/
inductive Extent where
  | none
  | all
  /-- Those of some literals, maybe with others. -/
  | some
deriving DecidableEq, Repr

namespace Extent

/-- What is in one class or another. -/
def union : Extent → Extent → Extent
  | .none, b => b
  | a, .none => a
  | .all, .all => .all
  | _, _ => .some

/-- What is not in a class. -/
def complement : Extent → Extent
  | .none => .all
  | .all => .none
  | .some => .some

/-- The result of an operation. -/
def operate : ClassOp → Extent → Extent → Extent
  | .intersection, .none, _ | .intersection, _, .none => .none
  | .intersection, .all, b => b
  | .intersection, a, .all => a
  | .difference, .none, _ | .difference, _, .all => .none
  | .difference, a, .none => a
  | .symmetricDifference, .none, b => b
  | .symmetricDifference, a, .none => a
  | .symmetricDifference, .all, b => b.complement
  | .symmetricDifference, a, .all => a.complement
  | _, _, _ => .some

end Extent

namespace Mode

/-- Refuses a pattern. -/
def refuse {α : Type} (m : Mistake) (s : Span) : Except Refusal α :=
  .error { mistake := m, span := s }

/-- Adds the other cases of the characters of a class. Only that of none and that of
all characters need no knowledge of them. -/
def fold (m : Mode) (s : Span) (e : Extent) : Except Refusal Extent :=
  if m.foldsUnicode && e == .some then refuse .foldingUnknown s else .ok e

/-- Takes what is not in a class, if it is negated. -/
def negate (m : Mode) (s : Span) (negated : Bool) (e : Extent) : Except Refusal Extent :=
  if !negated then .ok e
  else if m.unicode then .ok e.complement
  else refuse .bytesNoText s

/-- Whether a literal is a byte that is no character alone. -/
def isLoneByte (m : Mode) (l : Literal) : Bool := !m.unicode && l.isByte && 128 ≤ l.char.toNat

/-- A literal in a class. -/
def classLiteral (m : Mode) (l : Literal) : Except Refusal Extent :=
  if m.isLoneByte l then refuse .bytesNoText l.span
  else if !m.unicode && 128 ≤ l.char.toNat then refuse .unicodeForbidden l.span
  else .ok .some

/-- A class by a letter. -/
def letter (m : Mode) (c : LetterClass) : Except Refusal Extent :=
  if m.unicode then refuse .letterClassUnknown c.span
  else if c.negated then refuse .bytesNoText c.span
  else .ok .some

/-- A class by a property. -/
def property (m : Mode) (s : Span) : Except Refusal Extent :=
  refuse (if m.unicode then .propertyUnknown else .unicodeForbidden) s

end Mode

mutual
/-- The characters of a class. -/
def ClassTree.extent (m : Mode) : ClassTree → Except Refusal Extent
  | .nothing _ => .ok .none
  | .literal l => m.classLiteral l
  | .range _ low high => do
    discard <| m.classLiteral low
    m.classLiteral high
  | .ascii s negated => do m.negate s negated (← m.fold s .some)
  | .letter c => m.letter c
  | .property s => m.property s
  | .bracketed s negated t => do m.negate s negated (← m.fold s (← t.extent m))
  | .union _ ts => ClassTree.unionExtent m .none ts
  | .op _ kind l r => do
    let left ← l.extent m
    let right ← r.extent m
    let right ← m.fold r.span right
    let left ← m.fold l.span left
    return .operate kind left right

/-- The characters of some classes together with others. -/
def ClassTree.unionExtent (m : Mode) (e : Extent) : List ClassTree → Except Refusal Extent
  | [] => .ok e
  | t :: ts => do ClassTree.unionExtent m (e.union (← t.extent m)) ts
end

mutual
/-- The mode after a pattern, if all its parts are known. Flags hold to the end of the
group in which they stand. -/
def Tree.modeAfter (m : Mode) : Tree → Except Refusal Mode
  | .empty _ => .ok m
  | .flags _ items => .ok (m.set items)
  | .literal l =>
    if m.isLoneByte l then Mode.refuse .bytesNoText l.span
    else if m.foldsUnicode then Mode.refuse .foldingUnknown l.span
    else .ok m
  | .dot s => if m.unicode then .ok m else Mode.refuse .bytesNoText s
  | .assertion _ .edge => .ok m
  | .assertion _ .wordBoundary => .ok { m with unicodeBoundary := m.unicodeBoundary || m.unicode }
  | .letter c => do
    discard <| m.letter c
    return m
  | .property s => do
    discard <| m.property s
    return m
  | .bracketed s negated t => do
    discard <| m.negate s negated (← m.fold s (← t.extent m))
    return m
  | .repetition _ t => t.modeAfter m
  | .group _ items t => do
    let inside ← t.modeAfter (m.set items)
    return { m with unicodeBoundary := inside.unicodeBoundary }
  | .choice _ ts => Tree.modeAfterAll m ts
  | .concat _ ts => Tree.modeAfterAll m ts

/-- The mode after some patterns one after another. -/
def Tree.modeAfterAll (m : Mode) : List Tree → Except Refusal Mode
  | [] => .ok m
  | t :: ts => do Tree.modeAfterAll (← t.modeAfter m) ts
end

end AntTrail.Regex
