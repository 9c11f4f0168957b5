import AntTrail.Files

/-!
Paths: how a text names a place among files and folders.

A path is a list of steps with slashes between them, from the root if it begins with
a slash and else from wherever it is used. Every step but the last has to lead
through a folder, also one that stays where it is. `Path.folderText?` is the part of
the text that names the folder around its place.
-/
namespace AntTrail

/-- One step of a path. -/
inductive PathStep where
  /-- A point: stays. -/
  | here
  /-- Two points: to the folder around, which for the root is the root. -/
  | up
  | into (name : String)
deriving DecidableEq, Repr

/-- The step that a text between slashes stands for. -/
def PathStep.ofText (text : String) : PathStep :=
  if text == "." then .here else if text == ".." then .up else .into text

/-- A path. -/
structure Path where
  isAbsolute : Bool
  steps : List PathStep
  /-- Whether a slash ends the text, so that only a folder is meant. -/
  endsInSlash : Bool
deriving DecidableEq, Repr

namespace Path

/-- The number of bytes that no path reaches. -/
def sizeLimit : Nat := 4096

/-- The largest number of bytes in a name. -/
def maxNameSize : Nat := 255

/-- The path that a text stands for. Slashes that follow each other count as one. -/
def ofText (text : String) : Except FileError Path :=
  let cs := text.toList
  if cs.contains '\x00' then .error .nulByte
  else if cs.isEmpty then .error .notFound
  else if sizeLimit ≤ text.utf8ByteSize then .error .nameTooLong
  else
    let names := (cs.splitOnP (· == '/')).filter (!·.isEmpty)
    .ok {
      isAbsolute := cs.head? == some '/'
      steps := names.map fun n => .ofText (String.ofList n)
      endsInSlash := cs.getLast? == some '/' }

/-- Reversed text without the slashes and points at its end that lead nowhere. -/
def dropIdle : List Char → List Char
  | '/' :: cs => dropIdle cs
  | '.' :: '/' :: cs => dropIdle cs
  | cs => cs

/-- The text of the folder in which the last step of a path is taken. There is none if
that is the root, or where the path begins. -/
def folderText? (text : String) : Option String :=
  let name := dropIdle text.toList.reverse
  match dropIdle (name.dropWhile (· != '/')) with
  | [] => none
  | cs => some (String.ofList cs.reverse)

end Path
end AntTrail
