import AntTrail.Regex.Span

/-!
Why a text is no pattern, and the report that shows it.

A report repeats the pattern with carets under the span at fault, and under the
earlier span with which it collides if there is one. The lines of a pattern that has
several are numbered.
-/
namespace AntTrail.Regex

/-- What is wrong with a pattern. -/
inductive Mistake where
  | classEscape
  | classRangeCrossed
  | classRangeBoundary
  | classUnclosed
  | decimalInvalid
  | hexEmpty
  | hexNoCharacter
  | hexDigit
  | escapeEnd
  | escapeUnknown
  | flagNegationDangling
  | flagTwice
  | flagNegationTwice
  | flagEnd
  | flagUnknown
  | nameTwice
  | nameEmpty
  | nameCharacter
  | nameEnd
  | groupUnclosed
  | groupUnopened
  | nestedTooDeep (limit : Nat)
  | countsCrossed
  | countEmpty
  | countUnclosed
  | repetitionMissing
  | boundaryUnclosed
  | boundaryUnknown
  | boundaryEnd
  | propertyBackslash
  | backreference
  | lookAround
  /-- Characters beyond ASCII where bytes are matched. -/
  | unicodeForbidden
  /-- Bytes that are part of no character. -/
  | bytesNoText
  | propertyUnknown
  | letterClassUnknown
  | foldingUnknown
deriving DecidableEq, Repr

/-- The text that says why. -/
def Mistake.message : Mistake → String
  | classEscape => "invalid escape sequence found in character class"
  | classRangeCrossed => "invalid character class range, the start must be <= the end"
  | classRangeBoundary => "invalid range boundary, must be a literal"
  | classUnclosed => "unclosed character class"
  | decimalInvalid => "decimal literal invalid"
  | hexEmpty => "hexadecimal literal empty"
  | hexNoCharacter => "hexadecimal literal is not a Unicode scalar value"
  | hexDigit => "invalid hexadecimal digit"
  | escapeEnd => "incomplete escape sequence, reached end of pattern prematurely"
  | escapeUnknown => "unrecognized escape sequence"
  | flagNegationDangling => "dangling flag negation operator"
  | flagTwice => "duplicate flag"
  | flagNegationTwice => "flag negation operator repeated"
  | flagEnd => "expected flag but got end of regex"
  | flagUnknown => "unrecognized flag"
  | nameTwice => "duplicate capture group name"
  | nameEmpty => "empty capture group name"
  | nameCharacter => "invalid capture group character"
  | nameEnd => "unclosed capture group name"
  | groupUnclosed => "unclosed group"
  | groupUnopened => "unopened group"
  | nestedTooDeep limit => s!"exceed the maximum number of nested parentheses/brackets ({limit})"
  | countsCrossed => "invalid repetition count range, the start must be <= the end"
  | countEmpty => "repetition quantifier expects a valid decimal"
  | countUnclosed => "unclosed counted repetition"
  | repetitionMissing => "repetition operator missing expression"
  | boundaryUnclosed =>
    "special word boundary assertion is either unclosed or contains an invalid character"
  | boundaryUnknown => "unrecognized special word boundary assertion, valid choices are: " ++
      "start, end, start-half or end-half"
  | boundaryEnd => "found either the beginning of a special word boundary or a bounded " ++
      "repetition on a \\b with an opening brace, but no closing brace"
  | propertyBackslash => "invalid Unicode character class"
  | backreference => "backreferences are not supported"
  | lookAround => "look-around, including look-ahead and look-behind, is not supported"
  | unicodeForbidden => "Unicode not allowed here"
  | bytesNoText => "pattern can match invalid UTF-8"
  | propertyUnknown => "Unicode property not found"
  | letterClassUnknown => "Unicode-aware Perl class not found " ++
      "(make sure the unicode-perl feature is enabled)"
  | foldingUnknown => "Unicode-aware case insensitivity matching is not available " ++
      "(make sure the unicode-case feature is enabled)"

/-- What is wrong with a pattern, and where. -/
structure Refusal where
  mistake : Mistake
  span : Span
  /-- Something earlier that may not be repeated. -/
  earlier : Option Span := none
deriving DecidableEq, Repr

namespace Refusal

/-- The lines of a pattern. A carriage return before a line feed belongs to the line
end; nothing after the last line feed is no line. -/
def patternLines (pattern : List Char) : List (List Char) :=
  let pieces := pattern.splitOnP (· == '\n')
  let chomp (cs : List Char) := if cs.getLast? = some '\r' then cs.dropLast else cs
  let ended := pieces.dropLast.map chomp
  match pieces.getLast? with
  | some (c :: cs) => ended ++ [c :: cs]
  | _ => ended

/-- Carets below some spans of a line, from a column on. -/
def carets : (column : Nat) → List Span → List Char
  | _, [] => []
  | column, s :: spans =>
    let gap := s.start.column - column
    let width := max 1 (s.stop.column - s.start.column)
    List.replicate gap ' ' ++ List.replicate width '^' ++ carets (column + gap + width) spans

/-- Spaces before a text, so that it is at least so wide. -/
def padLeft (width : Nat) (cs : List Char) : List Char :=
  List.replicate (width - cs.length) ' ' ++ cs

/-- The spans to show. -/
def spans (r : Refusal) : List Span := (r.span :: r.earlier.toList).mergeSort Span.le

/-- The lines of a pattern with what is to be seen on them below. -/
def notated (r : Refusal) (pattern : List Char) : List (List Char) :=
  let lines := patternLines pattern
  let count := if pattern.getLast? = some '\n' then lines.length + 1 else lines.length
  let width := (Nat.toDigits 10 count).length
  let isNumbered := 1 < count
  lines.zipIdx.flatMap fun (line, i) =>
    let head :=
      if isNumbered then padLeft width (Nat.toDigits 10 (i + 1)) ++ [':', ' ']
      else List.replicate 4 ' '
    let marked := r.spans.filter fun s => s.isOneLine && s.start.line == i + 1
    let below := if marked.isEmpty then [] else [List.replicate head.length ' ' ++ carets 1 marked]
    (head ++ line) :: below

/-- What is said of a span over several lines. -/
def rangeNote (s : Span) : String :=
  s!"on line {s.start.line} (column {s.start.column}) through line {s.stop.line} " ++
    s!"(column {s.stop.column - 1})"

/-- The report on a pattern. -/
def report (r : Refusal) (pattern : String) : String :=
  let shown := (r.notated pattern.toList).map String.ofList
  let lines :=
    if pattern.contains '\n' then
      let divider := String.ofList (List.replicate 79 '~')
      let notes := (r.spans.filter fun s => !s.isOneLine).map rangeNote
      [divider] ++ shown ++ [divider] ++ notes
    else shown
  "\n".intercalate (["regex parse error:"] ++ lines ++ [s!"error: {r.mistake.message}"])

end Refusal
end AntTrail.Regex
