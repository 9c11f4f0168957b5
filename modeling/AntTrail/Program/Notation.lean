import AntTrail.Program
import AntTrail.Text.Split

/-!
Programs as text, in three forms.

- Postfix: the root token comes last, and the children before it from right to
  left, so that the first child stands directly before its parent.
- Polish: the root token comes first, and the children follow from left to right.
- Readable: `if( m , l )`.

The first two are lists of tokens, written with single spaces; either list is
the reverse of the other.
-/
namespace AntTrail.Program

/-- The tokens of the postfix form. -/
def postfixTokens : Program → List String
  | action a => [(Kind.action a).token]
  | ifFood p q => q.postfixTokens ++ p.postfixTokens ++ [Kind.ifFood.token]
  | seq2 p q => q.postfixTokens ++ p.postfixTokens ++ [Kind.seq2.token]
  | seq3 p q r => r.postfixTokens ++ q.postfixTokens ++ p.postfixTokens ++ [Kind.seq3.token]

/-- The tokens of the Polish form. -/
def polishTokens : Program → List String
  | action a => [(Kind.action a).token]
  | ifFood p q => Kind.ifFood.token :: (p.polishTokens ++ q.polishTokens)
  | seq2 p q => Kind.seq2.token :: (p.polishTokens ++ q.polishTokens)
  | seq3 p q r => Kind.seq3.token :: (p.polishTokens ++ q.polishTokens ++ r.polishTokens)

/-- Tokens with a space between neighbours. -/
def spaced (tokens : List String) : String :=
  String.ofList (Text.unwords (tokens.map String.toList))

/-- The postfix form. -/
def postfixText (p : Program) : String := spaced p.postfixTokens

/-- The Polish form. -/
def polishText (p : Program) : String := spaced p.polishTokens

/-- The characters of the readable form. -/
def readable : Program → List Char
  | action a => (Kind.action a).token.toList
  | ifFood p q =>
    Kind.ifFood.token.toList ++ "( ".toList ++ p.readable ++ " , ".toList ++ q.readable ++ " )".toList
  | seq2 p q =>
    Kind.seq2.token.toList ++ "( ".toList ++ p.readable ++ " , ".toList ++ q.readable ++ " )".toList
  | seq3 p q r =>
    Kind.seq3.token.toList ++ "( ".toList ++ p.readable ++ " , ".toList ++ q.readable ++
      " , ".toList ++ r.readable ++ " )".toList

/-- The readable form. -/
def readableText (p : Program) : String := String.ofList p.readable

theorem polishTokens_eq_reverse (p : Program) : p.polishTokens = p.postfixTokens.reverse := by
  induction p with
  | action a => rfl
  | ifFood p q ihp ihq => simp [polishTokens, postfixTokens, ihp, ihq]
  | seq2 p q ihp ihq => simp [polishTokens, postfixTokens, ihp, ihq]
  | seq3 p q r ihp ihq ihr => simp [polishTokens, postfixTokens, ihp, ihq, ihr]

/-- The Polish tokens are those of the kinds in pre-order. -/
theorem polishTokens_eq_map (p : Program) : p.polishTokens = p.kinds.map Kind.token := by
  unfold kinds
  induction p with
  | action a => rfl
  | ifFood p q ihp ihq => simp [polishTokens, preorder, kind, ihp, ihq]
  | seq2 p q ihp ihq => simp [polishTokens, preorder, kind, ihp, ihq]
  | seq3 p q r ihp ihq ihr => simp [polishTokens, preorder, kind, ihp, ihq, ihr]

end AntTrail.Program
