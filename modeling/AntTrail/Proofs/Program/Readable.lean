import AntTrail.Proofs.Program.Notation

/-!
# The readable form can be read

Brackets and commas stand in a readable form next to blanks, so that without them the tokens
are still apart. What is left has the tokens of the Polish form (`tokens_plain`), and is read
like it.
-/
namespace AntTrail

namespace Text

@[simp] theorem words_nil : words [] = [] := rfl

/-- A space keeps the words before it apart from those after it. -/
@[simp] theorem words_append_space (front back : List Char) :
    words (front ++ ' ' :: back) = words front ++ words back := by
  simp only [words, List.splitOnP_append_cons front back (show isBlank ' ' = true from rfl),
    List.filter_append]

@[simp] theorem words_space_cons (back : List Char) : words (' ' :: back) = words back :=
  words_append_space [] back

/-- A word alone is its only word. -/
theorem words_word {w : List Char} (hne : w ≠ []) (h : ∀ c ∈ w, isBlank c = false) :
    words w = [w] := by
  have hw : words (unwords [w]) = [w] := words_unwords (by simpa using ⟨hne, h⟩)
  rwa [unwords, List.intercalate_singleton] at hw

end Text

namespace Program

/-- The characters of readable forms that are neither of tokens nor between them. -/
def punctuation : List Char := ['(', ')', ',']

/-- Characters without brackets and commas. -/
def withoutPunctuation (cs : List Char) : List Char := cs.filter (· ∉ punctuation)

/-- A text without brackets and commas. -/
def plain (text : String) : String := String.ofList (withoutPunctuation text.toList)

@[simp] theorem withoutPunctuation_nil : withoutPunctuation [] = [] := rfl

@[simp] theorem withoutPunctuation_cons (c : Char) (cs : List Char) :
    withoutPunctuation (c :: cs) =
      if c ∈ punctuation then withoutPunctuation cs else c :: withoutPunctuation cs := by
  by_cases h : c ∈ punctuation <;> simp [withoutPunctuation, h]

@[simp] theorem withoutPunctuation_append (front back : List Char) :
    withoutPunctuation (front ++ back) = withoutPunctuation front ++ withoutPunctuation back :=
  List.filter_append ..

/-- Tokens have neither. -/
@[simp] theorem withoutPunctuation_token (k : Kind) :
    withoutPunctuation k.token.toList = k.token.toList := by
  cases k with
  | action a => cases a <;> rfl
  | _ => rfl

@[simp] theorem words_token (k : Kind) : Text.words k.token.toList = [k.token.toList] :=
  Text.words_word k.token_word.1 k.token_word.2

/-- The words that are left are the tokens in pre-order: between brackets, commas and
neighbouring forms there is always a space. -/
theorem words_readable (p : Program) :
    Text.words (withoutPunctuation p.readable) = p.kinds.map fun k => k.token.toList := by
  induction p with
  | action a =>
    rw [readable, withoutPunctuation_token, words_token]
    rfl
  | ifFood p q ihp ihq =>
    simp [readable, punctuation, ihp, ihq, kinds_eq_cons (ifFood p q), kind, children]
  | seq2 p q ihp ihq =>
    simp [readable, punctuation, ihp, ihq, kinds_eq_cons (seq2 p q), kind, children]
  | seq3 p q r ihp ihq ihr =>
    simp [readable, punctuation, ihp, ihq, ihr, kinds_eq_cons (seq3 p q r), kind, children]

theorem tokens_plain (p : Program) : tokens (plain p.readableText) = p.polishTokens := by
  rw [tokens, plain, readableText, String.toList_ofList, String.toList_ofList, words_readable,
    polishTokens_eq_map, List.map_map]
  simp

/-- The readable form is unambiguous. Without its brackets and commas it is read in Polish form
as the program of which it is, and no two programs have the same. -/
theorem parsePolish_plain_readable :
    (∀ p : Program, parsePolish Kind.all (plain p.readableText) = .ok p) ∧
      Function.Injective readableText := by
  have hread : ∀ p : Program, parsePolish Kind.all (plain p.readableText) = .ok p := by
    intro p
    rw [parsePolish_eq_ok, tokens_plain, tokens_polishText]
    exact ⟨rfl, fun k _ => k.mem_all⟩
  exact ⟨hread, injective_of_read (fun text => parsePolish Kind.all (plain text)) hread⟩

/-- Two commas on one level, and brackets that close together. -/
example : (seq3 (action .move) (seq2 (action .turnLeft) (action .turnRight))
      (ifFood (action .move) (action .turnLeft))).readableText =
    "p3( m , p2( l , r ) , if( m , l ) )" := by
  decide

end Program
end AntTrail
