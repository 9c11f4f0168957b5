/-!
Places in a pattern: spots between its characters, and spans from one spot to another.
-/
namespace AntTrail.Regex

/-- A spot in a pattern. Lines and columns count from one. -/
structure Spot where
  /-- The number of characters before it. -/
  offset : Nat := 0
  line : Nat := 1
  column : Nat := 1
deriving DecidableEq, Repr

/-- The spot behind a character. -/
def Spot.after (s : Spot) (c : Char) : Spot :=
  if c = '\n' then ⟨s.offset + 1, s.line + 1, 1⟩ else ⟨s.offset + 1, s.line, s.column + 1⟩

/-- A part of a pattern. -/
structure Span where
  start : Spot
  stop : Spot
deriving DecidableEq, Repr

namespace Span

/-- The span at a spot with nothing in it. -/
def empty (s : Spot) : Span := ⟨s, s⟩

/-- Whether a span begins and ends on one line. -/
def isOneLine (s : Span) : Bool := s.start.line == s.stop.line

/-- The order of spans: by where they start, then by where they stop. -/
def le (a b : Span) : Bool :=
  a.start.offset < b.start.offset ||
    (a.start.offset == b.start.offset && a.stop.offset ≤ b.stop.offset)

end Span
end AntTrail.Regex
