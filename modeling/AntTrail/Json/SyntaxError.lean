/-!
How a text fails to be a JSON text.
-/
namespace AntTrail.Json

/-- The two kinds of bracket. -/
inductive Bracket where
  /-- Square: around the items of a list. -/
  | list
  /-- Curly: around the members of a record. -/
  | record
deriving DecidableEq, Repr

/-- Why a text is not JSON. -/
inductive SyntaxError where
  /-- The text ends where a value or the rest of one is demanded. -/
  | endOfValue
  /-- The text ends inside a string. -/
  | endOfString
  /-- The text ends between brackets. -/
  | endOf (b : Bracket)
  | expectedColon
  /-- Neither a comma nor the closing bracket. -/
  | expectedMore (b : Bracket)
  /-- A misspelt word, such as `nul`. -/
  | expectedWord
  | expectedValue
  | invalidEscape
  | invalidNumber
  /-- A number beyond those of 64-bit floating point. -/
  | numberOutOfRange
  | controlCharacter
  | keyNotString
  /-- One half of a surrogate pair without the other. -/
  | loneSurrogate
  /-- A leading half with something else after it. -/
  | unfinishedPair
  | trailingComma
  | trailingCharacters
deriving DecidableEq, Repr

/-- The text that says why. -/
def SyntaxError.message : SyntaxError → String
  | endOfValue => "EOF while parsing a value"
  | endOfString => "EOF while parsing a string"
  | endOf .list => "EOF while parsing a list"
  | endOf .record => "EOF while parsing an object"
  | expectedColon => "expected `:`"
  | expectedMore .list => "expected `,` or `]`"
  | expectedMore .record => "expected `,` or `\x7d`"
  | expectedWord => "expected ident"
  | expectedValue => "expected value"
  | invalidEscape => "invalid escape"
  | invalidNumber => "invalid number"
  | numberOutOfRange => "number out of range"
  | controlCharacter => "control character (\\u0000-\\u001F) found while parsing a string"
  | keyNotString => "key must be a string"
  | loneSurrogate => "lone leading surrogate in hex escape"
  | unfinishedPair => "unexpected end of hex escape"
  | trailingComma => "trailing comma"
  | trailingCharacters => "trailing characters"

end AntTrail.Json
