import AntTrail.Regex.Refusal
import AntTrail.Regex.Tree

/-!
How deep patterns nest.

A pattern that holds others, whether in parentheses or not, makes a level; so does a
class in brackets, and within it each union and each operation.
-/
namespace AntTrail.Regex

/-- The most levels that may lie one in another. -/
def maxDepth : Nat := 250

mutual
/-- The first class that lies deeper than some levels. -/
def ClassTree.tooDeep? : (levels : Nat) → ClassTree → Option Span
  | 0, .bracketed s .. | 0, .union s _ | 0, .op s .. => some s
  | n + 1, .bracketed _ _ t => t.tooDeep? n
  | n + 1, .union _ ts => ClassTree.anyTooDeep? n ts
  | n + 1, .op _ _ l r => (l.tooDeep? n).or (r.tooDeep? n)
  | _, _ => none

/-- The first class in a list, or in a class of it, that lies deeper than some levels. -/
def ClassTree.anyTooDeep? : (levels : Nat) → List ClassTree → Option Span
  | _, [] => none
  | n, t :: ts => (t.tooDeep? n).or (ClassTree.anyTooDeep? n ts)
end

mutual
/-- The first pattern or class that lies deeper than some levels. -/
def Tree.tooDeep? : (levels : Nat) → Tree → Option Span
  | 0, .bracketed s .. | 0, .repetition s _ | 0, .group s .. | 0, .choice s _ | 0, .concat s _ =>
    some s
  | n + 1, .bracketed _ _ t => t.tooDeep? n
  | n + 1, .repetition _ t => t.tooDeep? n
  | n + 1, .group _ _ t => t.tooDeep? n
  | n + 1, .choice _ ts => Tree.anyTooDeep? n ts
  | n + 1, .concat _ ts => Tree.anyTooDeep? n ts
  | _, _ => none

/-- The first pattern or class in a list that lies deeper than some levels. -/
def Tree.anyTooDeep? : (levels : Nat) → List Tree → Option Span
  | _, [] => none
  | n, t :: ts => (t.tooDeep? n).or (Tree.anyTooDeep? n ts)
end

/-- Refuses a pattern that nests too deep. -/
def Tree.checkDepth (t : Tree) : Except Refusal Unit :=
  match t.tooDeep? maxDepth with
  | some s => .error { mistake := .nestedTooDeep maxDepth, span := s }
  | none => .ok ()

end AntTrail.Regex
