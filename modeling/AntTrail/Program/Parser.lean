import AntTrail.Program.Notation

/-!
Reading programs from text.

Both forms are read by `readTree`, which takes tokens from the front of a list:
the Polish form as it stands, the postfix form from its last token to its first.
What is left over when the root is complete is an error, and its tokens are not
looked up.
-/
namespace AntTrail

/-- Why a text is not a program. -/
inductive ParseError where
  /-- No token at all. -/
  | empty
  /-- The tokens end before every branch has its children. -/
  | exhausted
  /-- Tokens stand before the root of a postfix form; the first of them. -/
  | leftBefore (count : Nat) (first : String)
  /-- Tokens stand after a complete Polish form. -/
  | leftAfter (count : Nat)
  /-- A token that names no kind of the vocabulary. -/
  | unknownToken (token : String)
deriving DecidableEq, Repr

/-- The text that says why. -/
def ParseError.message : ParseError → String
  | .empty => "Malformed program: empty program"
  | .exhausted => "Malformed program: ran out of tokens while reading children"
  | .leftBefore count first =>
    s!"Malformed program: {count} unused token(s) before the root, starting with >>{first}<<"
  | .leftAfter count => s!"Malformed program: {count} unused token(s) after the root"
  | .unknownToken token => s!"Unknown token: >>{token}<<"

/-- The kinds whose tokens are understood. -/
abbrev Vocabulary := List Kind

/-- The kind that a token names. -/
def Vocabulary.lookup (v : Vocabulary) (token : String) : Except ParseError Kind :=
  match v.find? fun k => k.token == token with
  | some k => .ok k
  | none => .error (.unknownToken token)

namespace Program

/-- The computations that take tokens from the front of a list. -/
abbrev Reading := StateT (List String) (Except ParseError)

/-- The next token. -/
def nextToken : Reading String := do
  match ← get with
  | [] => throw .exhausted
  | t :: rest =>
    set rest
    return t

/-- Takes one complete program from the front of the tokens. Every node takes a
token, so as much `fuel` as there are tokens is enough, and where it runs out
the tokens have too. -/
def readTree (v : Vocabulary) : (fuel : Nat) → Reading Program
  | 0 => throw .exhausted
  | fuel + 1 => do
    let t ← nextToken
    let k ← v.lookup t
    k.build (readTree v fuel)

/-- The program at the front of some tokens, and the tokens after it. -/
def takeTree (v : Vocabulary) (tokens : List String) :
    Except ParseError (Program × List String) :=
  (readTree v tokens.length).run tokens

/-- The tokens of a text. -/
def tokens (text : String) : List String := (Text.words text.toList).map String.ofList

/-- The program with the given postfix tokens. -/
def ofPostfixTokens (v : Vocabulary) (ts : List String) : Except ParseError Program := do
  if ts.isEmpty then throw .empty
  let (p, rest) ← takeTree v ts.reverse
  match rest.reverse with
  | [] => return p
  | first :: _ => throw (.leftBefore rest.length first)

/-- The program with the given Polish tokens. -/
def ofPolishTokens (v : Vocabulary) (ts : List String) : Except ParseError Program := do
  if ts.isEmpty then throw .empty
  let (p, rest) ← takeTree v ts
  match rest with
  | [] => return p
  | _ :: _ => throw (.leftAfter rest.length)

/-- Reads a program in postfix form. -/
def parsePostfix (v : Vocabulary) (text : String) : Except ParseError Program :=
  ofPostfixTokens v (tokens text)

/-- Reads a program in Polish form. -/
def parsePolish (v : Vocabulary) (text : String) : Except ParseError Program :=
  ofPolishTokens v (tokens text)

end Program
end AntTrail
