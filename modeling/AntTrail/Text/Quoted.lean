import AntTrail.Text.Extending
import AntTrail.Text.Unprintable

/-!
Text in quotation marks, such that every character can be seen.

Quotation marks, backslashes and the usual controls are written with a backslash;
characters that cannot be printed, and those that would merge with the one before
them, by their code point.
-/
namespace AntTrail.Text

/-- A character by its code point: `\u` and hexadecimal digits in curly brackets. -/
def byCodePoint (c : Char) : List Char :=
  ['\\', 'u', '\x7b'] ++ Nat.toDigits 16 c.toNat ++ ['\x7d']

/-- A character between quotation marks. -/
def quotedChar (c : Char) : List Char :=
  match c with
  | '\x00' => ['\\', '0']
  | '\t' => ['\\', 't']
  | '\r' => ['\\', 'r']
  | '\n' => ['\\', 'n']
  | '\\' => ['\\', '\\']
  | '"' => ['\\', '"']
  | c => if isExtending c || isUnprintable c then byCodePoint c else [c]

/-- A text in quotation marks. -/
def quoted (s : String) : String :=
  String.ofList ('"' :: (s.toList.flatMap quotedChar ++ ['"']))

end AntTrail.Text
