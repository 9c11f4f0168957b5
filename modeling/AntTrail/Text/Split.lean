import AntTrail.Text.Blank

/-!
Words and lines of a text.

Words are the longest runs without a blank. A line ends with a line feed, and
the carriage returns before the end of a line do not belong to it.
-/
namespace AntTrail.Text

/-- The words of a text. -/
def words (cs : List Char) : List (List Char) :=
  (cs.splitOnP isBlank).filter fun w => !w.isEmpty

/-- Words with one space between neighbours. -/
def unwords (ws : List (List Char)) : List Char := List.intercalate [' '] ws

/-- A text less the carriage returns at its end. -/
def dropReturns (cs : List Char) : List Char :=
  (cs.reverse.dropWhile (· == '\r')).reverse

/-- The lines of a text. Nothing after the last line feed is no line. -/
def lines (cs : List Char) : List (List Char) :=
  let pieces := cs.splitOnP (· == '\n')
  let ended := if pieces.getLast? = some [] then pieces.dropLast else pieces
  ended.map dropReturns

/-- A text of blanks only. -/
def allBlank (cs : List Char) : Bool := cs.all isBlank

end AntTrail.Text
