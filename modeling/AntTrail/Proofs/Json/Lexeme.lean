import Mathlib.Data.List.Chain
import AntTrail.Json.Token
import AntTrail.Proofs.Json.Numeral
import AntTrail.Proofs.Json.Quotation

/-!
# Texts are cut into tokens where their writers put them

A `Lexeme` is what a writer puts down between blanks. `Spaced` says how lexemes become a text:
one after the other, with any blanks around them. Only two numbers in a row would run into
each other; where there are none, the text is cut into the tokens of its lexemes
(`takeFrom_spaced`).
-/
namespace AntTrail.Json

/-- What stands between blanks. -/
inductive Lexeme where
  | opening (b : Bracket)
  | closing (b : Bracket)
  | comma
  | colon
  | string (ps : List Piece)
  | null
  | bool (b : Bool)
  | number (l : Literal)

/-- The text for which pieces stand, if they stand for one. -/
def quotation (ps : List Piece) : Written String :=
  match joined none ps with
  | .ok cs => .sound (String.ofList cs)
  | .error e => .unreadable e

namespace Literal

/-- The number that is meant, if it is not too great. -/
def atom (l : Literal) : Written Atom :=
  match l.value with
  | .ok n => .sound (.number n)
  | .error e => .unreadable e

end Literal

namespace Lexeme

/-- The token that a lexeme is. -/
def token : Lexeme → Token
  | opening b => .opening b
  | closing b => .closing b
  | comma => .comma
  | colon => .colon
  | string ps => .string (quotation ps)
  | null => .atom (.sound .null)
  | bool b => .atom (.sound (.bool b))
  | number l => .atom l.atom

/-- The characters that write a lexeme. -/
inductive Spelt : Lexeme → List Char → Prop
  | openingList : Spelt (opening .list) ['[']
  | openingRecord : Spelt (opening .record) ['\x7b']
  | closingList : Spelt (closing .list) [']']
  | closingRecord : Spelt (closing .record) ['\x7d']
  | comma : Spelt comma [',']
  | colon : Spelt colon [':']
  | string {ps : List Piece} {cs : List Char} (h : Spells cs ps) :
    Spelt (string ps) ('"' :: (cs ++ ['"']))
  | null : Spelt null ['n', 'u', 'l', 'l']
  | boolTrue : Spelt (bool true) ['t', 'r', 'u', 'e']
  | boolFalse : Spelt (bool false) ['f', 'a', 'l', 's', 'e']
  | number {l : Literal} {cs : List Char} (h : l.Spelt cs) : Spelt (number l) cs

/-- Whether a lexeme is a number. -/
def isNumber : Lexeme → Bool
  | number _ => true
  | _ => false

/-- Two lexemes that do not run into each other. -/
def Parted (x y : Lexeme) : Prop := x.isNumber = true → y.isNumber = false

end Lexeme

/-- Lexemes one after the other, with blanks around them. -/
inductive Spaced : List Lexeme → List Char → Prop
  | nil : Spaced [] []
  | space {xs : List Lexeme} {c : Char} {cs : List Char} (hc : Token.isSpace c = true)
    (h : Spaced xs cs) : Spaced xs (c :: cs)
  | cons {x : Lexeme} {xs : List Lexeme} {cs rest : List Char} (hx : x.Spelt cs)
    (h : Spaced xs rest) : Spaced (x :: xs) (cs ++ rest)

/-- A string in which nothing needs a backslash. -/
theorem Spaced.plain {xs : List Lexeme} {rest : List Char} (cs : List Char)
    (h : cs.all isUnescaped = true) (hrest : Spaced xs rest) :
    Spaced (.string (cs.map .char) :: xs) ('"' :: (cs ++ '"' :: rest)) := by
  have hquoted := Spaced.cons (.string (spells_map_char h)) hrest
  simpa using hquoted

/-! ## First characters -/

variable {x : Lexeme} {xs : List Lexeme} {l : Literal} {cs rest : List Char}

theorem Literal.Unsigned.exists_digit (h : l.Unsigned cs) :
    ∃ c tail, cs = c :: tail ∧ c.isDigit = true := by
  obtain ⟨hw, -, -⟩ := h
  cases hds : l.whole with
  | nil => exact absurd hds hw.ne_nil
  | cons c tail => exact ⟨c, _, rfl, hw.isDigit c (by simp [hds])⟩

theorem isSpace_of_isDigit {c : Char} (h : c.isDigit = true) : Token.isSpace c = false := by
  have hne : ∀ d : Char, d.isDigit = false → c ≠ d := by
    rintro d hd rfl
    exact absurd h (by simp [hd])
  simp [Token.isSpace, hne ' ' rfl, hne '\n' rfl, hne '\t' rfl, hne '\r' rfl]

/-- A lexeme is not empty, and no blank stands at its front. -/
theorem Lexeme.Spelt.exists_cons (h : x.Spelt cs) :
    ∃ c tail, cs = c :: tail ∧ Token.isSpace c = false := by
  cases h with
  | number h =>
    cases h with
    | positive _ h =>
      obtain ⟨c, tail, rfl, hc⟩ := h.exists_digit
      exact ⟨c, tail, rfl, isSpace_of_isDigit hc⟩
    | negative _ h => exact ⟨'-', _, rfl, rfl⟩
  | _ => exact ⟨_, _, rfl, rfl⟩

/-- No number is carried on by a blank. -/
theorem ends_of_isSpace {c : Char} (hc : Token.isSpace c = true) : Literal.Ends (c :: rest) := by
  rintro d ⟨⟩
  have hcases : c = ' ' ∨ c = '\n' ∨ c = '\t' ∨ c = '\r' := by
    simpa [Token.isSpace, or_assoc] using hc
  rcases hcases with rfl | rfl | rfl | rfl <;> decide

/-- Nor by a lexeme that is no number. -/
theorem Lexeme.Spelt.ends (h : x.Spelt cs) (hx : x.isNumber = false) :
    Literal.Ends (cs ++ rest) := by
  cases h with
  | number _ => cases hx
  | _ =>
    rintro d ⟨⟩
    decide

theorem Spaced.ends (h : Spaced xs rest) (hx : ∀ x, xs.head? = some x → x.isNumber = false) :
    Literal.Ends rest := by
  cases h with
  | nil => exact nofun
  | space hc _ => exact ends_of_isSpace hc
  | cons hy _ => exact hy.ends (hx _ rfl)

/-! ## Tokens -/

namespace Token

theorem next?_space {c : Char} (hc : isSpace c = true) : next? (c :: cs) = next? cs := by
  rw [next?, next?, List.dropWhile_cons_of_pos hc]

theorem beginning_digit {c : Char} (hc : c.isDigit = true) (rest : List Char) :
    beginning c rest = ofNumber false (c :: rest) := by
  unfold beginning
  split
  case h_12 => rw [if_pos hc]
  -- the marks and the first letters of words are no digits
  all_goals cases hc

theorem ofNumber_append (h : l.Unsigned cs) (hrest : Literal.Ends rest) :
    ofNumber l.negative (cs ++ rest) = (.atom l.atom, rest) := by
  rw [ofNumber, Literal.scan_append h hrest, Literal.atom]
  dsimp only
  cases l.value with
  | ok n => rfl
  | error e => rfl

theorem ofString_append {ps : List Piece} (h : Spells cs ps) :
    ofString (cs ++ '"' :: rest) = (.string (quotation ps), rest) := by
  rw [ofString, skipString_spells h, readString_spells h, quotation]
  cases joined none ps with
  | ok s => rfl
  | error e => rfl

/-- A lexeme at the front is the next token, and the text goes on right after it. -/
theorem next?_append (h : x.Spelt cs) (hend : x.isNumber = true → Literal.Ends rest) :
    next? (cs ++ rest) = some (x.token, rest) := by
  obtain ⟨c, tail, rfl, hc⟩ := h.exists_cons
  rw [next?, List.cons_append, List.dropWhile_cons_of_neg (by simp [hc])]
  show some (beginning c (tail ++ rest)) = _
  congr 1
  cases h with
  | string h =>
    rw [List.append_assoc]
    exact ofString_append h
  | number h =>
    cases h with
    | positive hs h =>
      obtain ⟨d, _, heq, hd⟩ := h.exists_digit
      obtain ⟨rfl, rfl⟩ := List.cons_eq_cons.mp heq
      rw [beginning_digit hd, ← hs]
      exact ofNumber_append h (hend rfl)
    | negative hs h =>
      show ofNumber true _ = _
      rw [← hs]
      exact ofNumber_append h (hend rfl)
  | _ => rfl

/-- A text is cut into the tokens of its lexemes. -/
theorem takeFrom_spaced (h : Spaced xs cs) (hparted : xs.IsChain Lexeme.Parted) {fuel : Nat}
    (hfuel : cs.length ≤ fuel) : takeFrom fuel cs = xs.map Lexeme.token := by
  induction h generalizing fuel with
  | nil => cases fuel <;> rfl
  | @space xs c cs hc h ih =>
    cases fuel with
    | zero => simp at hfuel
    | succ fuel =>
      have hsame : takeFrom (fuel + 1) (c :: cs) = takeFrom (fuel + 1) cs := by
        rw [takeFrom, takeFrom, next?_space hc]
      rw [hsame]
      exact ih hparted (by simp at hfuel; omega)
  | @cons x xs cs rest hx h ih =>
    obtain ⟨hhead, htail⟩ := List.isChain_cons.mp hparted
    cases fuel with
    | zero =>
      obtain ⟨c, tail, rfl, -⟩ := hx.exists_cons
      simp at hfuel
    | succ fuel =>
      have hend : x.isNumber = true → Literal.Ends rest := by
        intro hnum
        exact h.ends fun y hy => hhead y hy hnum
      obtain ⟨c, tail, rfl, -⟩ := hx.exists_cons
      rw [takeFrom, next?_append hx hend, List.map_cons]
      dsimp only
      rw [ih htail (by simp at hfuel; omega)]

theorem ofText_spaced {text : String} (h : Spaced xs text.toList)
    (hparted : xs.IsChain Lexeme.Parted) : ofText text = xs.map Lexeme.token :=
  takeFrom_spaced h hparted (by rw [String.length_toList])

end Token
end AntTrail.Json
