import AntTrail.Regex.Refusal
import AntTrail.Text.Blank

/-!
How far a pattern has been read.

With free spacing, blanks between the parts of a pattern and comments, which go from
a number sign to the end of the line, are passed over.
-/
namespace AntTrail.Regex

/-- A spot in a pattern and the characters from there on. -/
structure Cursor where
  spot : Spot := {}
  rest : List Char
  freeSpacing : Bool := false
deriving Repr

namespace Cursor

/-- The empty span at a cursor. -/
def here (c : Cursor) : Span := .empty c.spot

/-- The span of the next character. -/
def charSpan (c : Cursor) : Span :=
  match c.rest with
  | [] => c.here
  | x :: _ => ⟨c.spot, c.spot.after x⟩

/-- What has been read from a spot on. -/
def since (c : Cursor) (start : Spot) : Span := ⟨start, c.spot⟩

/-- Passes over a character. -/
def next (c : Cursor) : Cursor :=
  match c.rest with
  | [] => c
  | x :: rest => { c with spot := c.spot.after x, rest }

/-- Passes over some characters. -/
def nextMany (c : Cursor) (count : Nat) : Cursor := count.repeat next c

/-- Passes over blanks alone. -/
def overBlanks (c : Cursor) : Cursor := c.nextMany (c.rest.takeWhile Text.isBlank).length

/-- Passes over blanks and comments. -/
def afterBlanksFrom : (inComment : Bool) → Spot → List Char → Spot × List Char
  | _, spot, [] => (spot, [])
  | true, spot, x :: rest => afterBlanksFrom (x ≠ '\n') (spot.after x) rest
  | false, spot, x :: rest =>
    if Text.isBlank x then afterBlanksFrom false (spot.after x) rest
    else if x = '#' then afterBlanksFrom true (spot.after x) rest
    else (spot, x :: rest)

theorem length_afterBlanksFrom_le (inComment : Bool) (spot : Spot) (rest : List Char) :
    (afterBlanksFrom inComment spot rest).2.length ≤ rest.length := by
  fun_induction afterBlanksFrom inComment spot rest <;> grind

/-- Passes over blanks and comments with free spacing, and otherwise over nothing. -/
def afterBlanks (c : Cursor) : Cursor :=
  if c.freeSpacing then
    let (spot, rest) := afterBlanksFrom false c.spot c.rest
    { c with spot, rest }
  else c

/-- Passes over a character and what may stand before the next one. -/
def step (c : Cursor) : Cursor := c.next.afterBlanks

theorem length_afterBlanks_le (c : Cursor) : c.afterBlanks.rest.length ≤ c.rest.length := by
  unfold afterBlanks
  split
  · exact length_afterBlanksFrom_le ..
  · exact Nat.le_refl _

theorem length_step_lt {c : Cursor} {x : Char} {rest : List Char} (h : c.rest = x :: rest) :
    c.step.rest.length < c.rest.length := by
  have := c.next.length_afterBlanks_le
  simp only [step, h, List.length_cons]
  simp only [next, h] at this ⊢
  omega

/-- Passes over characters with a property, and what may stand between them. -/
def stepWhile (c : Cursor) (p : Char → Bool) : List Char × Cursor :=
  match _h : c.rest with
  | [] => ([], c)
  | x :: _ =>
    if p x then
      let (xs, c) := c.step.stepWhile p
      (x :: xs, c)
    else ([], c)
termination_by c.rest.length
decreasing_by exact length_step_lt _h

/-- The character after the next one. With free spacing blanks before it and one
number sign among them do not count. -/
def second? (c : Cursor) : Option Char :=
  let rest := c.rest.tail
  if c.freeSpacing then
    match rest.dropWhile Text.isBlank with
    | '#' :: rest => (rest.dropWhile Text.isBlank).head?
    | rest => rest.head?
  else rest.head?

end Cursor

/-- Computations that read on in a pattern. -/
abbrev Reader := StateT Cursor (Except Refusal)

namespace Reader

/-- Refuses a pattern. -/
def refuse {α : Type} (m : Mistake) (s : Span) (earlier : Option Span := none) : Reader α :=
  throw ⟨m, s, earlier⟩

/-- Passes over a character. -/
def next : Reader Unit := modify Cursor.next

/-- Passes over a character and what may stand before the next one. -/
def step : Reader Unit := modify Cursor.step

/-- Refuses a pattern that ends here. -/
def needMore (m : Mistake) (place : Cursor → Span) : Reader Unit := do
  let c ← get
  if c.rest.isEmpty then refuse m (place c)

/-- Passes over blanks and comments. -/
def blanks : Reader Unit := modify Cursor.afterBlanks

end Reader
end AntTrail.Regex
