import AntTrail.Text.Utf8

/-!
Reading domain values from the bytes of files, and how files fail.
-/
namespace AntTrail

/-- Why a file cannot be read or written. -/
inductive FileError where
  | notFound
  /-- There already is a file where a folder is demanded. -/
  | occupied
  /-- A path leads through a file. -/
  | notFolder
  | isFolder
  /-- A name or a whole path has too many bytes. -/
  | nameTooLong
  /-- A path with the character of code zero in it. -/
  | nulByte
  /-- The bytes are no text. -/
  | notText
  /-- Any other failure, in the words of whoever reports it. -/
  | other (words : String)
deriving DecidableEq, Repr

/-- The text that says why. -/
def FileError.message : FileError → String
  | notFound => "No such file or directory (os error 2)"
  | occupied => "File exists (os error 17)"
  | notFolder => "Not a directory (os error 20)"
  | isFolder => "Is a directory (os error 21)"
  | nameTooLong => "File name too long (os error 36)"
  | nulByte => "file name contained an unexpected NUL byte"
  | notText => "stream did not contain valid UTF-8"
  | other words => words

/-- Why a value cannot be had from a file: the file itself, or what is in it. -/
inductive LoadError (ε : Type) where
  | file (e : FileError)
  | content (e : ε)

namespace LoadError

/-- The reasons from the outermost to the innermost, given the text of one in the content. -/
def causes {ε : Type} (message : ε → String) : LoadError ε → List String
  | file e => [s!"IO error: {e.message}", e.message]
  | content e => [message e]

/-- The text that says why. -/
def message {ε : Type} (contentMessage : ε → String) : LoadError ε → String
  | file e => s!"IO error: {e.message}"
  | content e => contentMessage e

end LoadError

/-- A value from bytes that are text. -/
def fromText {ε α : Type} (parse : String → Except ε α) (bytes : List UInt8) :
    Except (LoadError ε) α :=
  match Text.Utf8.decode bytes with
  | .ok text => (parse text).mapError .content
  | .error _ => .error (.file .notText)

end AntTrail
