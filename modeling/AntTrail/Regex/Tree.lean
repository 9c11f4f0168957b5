import AntTrail.Regex.Span

/-!
Patterns as trees, with the spans from which they were read.

Only what decides whether a pattern is accepted is kept: of a repetition not how
often, and of a group not whether it captures.
-/
namespace AntTrail.Regex

/-- A character that stands for itself. -/
structure Literal where
  span : Span
  char : Char
  /-- Written as a byte, with two hexadecimal digits. -/
  isByte : Bool := false
deriving DecidableEq, Repr

/-- A class by a letter: digits, blanks, or characters of words. -/
structure LetterClass where
  span : Span
  negated : Bool
deriving DecidableEq, Repr

/-- The operations on classes. -/
inductive ClassOp where
  | intersection
  | difference
  | symmetricDifference
deriving DecidableEq, Repr

/-- What stands in a bracketed class. -/
inductive ClassTree where
  | nothing (span : Span)
  | literal (l : Literal)
  | range (span : Span) (first last : Literal)
  /-- A class of ASCII characters by its name. -/
  | ascii (span : Span) (negated : Bool)
  | letter (c : LetterClass)
  | property (span : Span)
  | bracketed (span : Span) (negated : Bool) (inside : ClassTree)
  | union (span : Span) (parts : List ClassTree)
  | op (span : Span) (kind : ClassOp) (left right : ClassTree)

/-- The span of a class. -/
def ClassTree.span : ClassTree → Span
  | nothing s => s
  | literal l => l.span
  | range s .. => s
  | ascii s _ => s
  | letter c => c.span
  | property s => s
  | bracketed s .. => s
  | union s _ => s
  | op s .. => s

/-- The flags that change how a pattern is read. -/
inductive Flag where
  | ignoreCase
  | multiLine
  | dotMatchesNewLine
  | swapGreed
  | unicode
  | anyLineEnd
  | freeSpacing
deriving DecidableEq, Repr

/-- What stands in a list of flags. Those after a negation are switched off. -/
inductive FlagItem where
  | negation
  | flag (f : Flag)
deriving DecidableEq, Repr

/-- The last word of a list of flags on one of them, if it has any. -/
def FlagItem.state? (items : List FlagItem) (f : Flag) : Option Bool :=
  if items.contains (.flag f) then
    some (!(items.takeWhile (· != .flag f)).contains .negation)
  else none

/-- Where an assertion holds. -/
inductive Assertion where
  | edge
  /-- At the begin or end of a word, or not there. -/
  | wordBoundary
deriving DecidableEq, Repr

/-- A pattern. -/
inductive Tree where
  | empty (span : Span)
  | flags (span : Span) (items : List FlagItem)
  | literal (l : Literal)
  | dot (span : Span)
  | assertion (span : Span) (a : Assertion)
  | letter (c : LetterClass)
  | property (span : Span)
  | bracketed (span : Span) (negated : Bool) (inside : ClassTree)
  | repetition (span : Span) (t : Tree)
  | group (span : Span) (items : List FlagItem) (t : Tree)
  | choice (span : Span) (branches : List Tree)
  | concat (span : Span) (parts : List Tree)

/-- The span of a pattern. -/
def Tree.span : Tree → Span
  | empty s => s
  | flags s _ => s
  | literal l => l.span
  | dot s => s
  | assertion s _ => s
  | letter c => c.span
  | property s => s
  | bracketed s .. => s
  | repetition s _ => s
  | group s .. => s
  | choice s _ => s
  | concat s _ => s

end AntTrail.Regex
