import AntTrail.Files.Path
import AntTrail.Session
import Std.Time.DateTime.Timestamp

/-!
The command line: a session in the world of real files, with the settings file that
the environment names.
-/
namespace AntTrail

/-- A failure of the operating system as one of a file. -/
def FileError.ofSystem : IO.Error → FileError
  | .noFileOrDirectory .. => .notFound
  | .alreadyExists .. => .occupied
  | .inappropriateType _ 20 _ => .notFolder
  | .inappropriateType _ 21 _ => .isFolder
  | .invalidArgument _ 36 _ => .nameTooLong
  | .permissionDenied _ code details => .other s!"{details} (os error {code})"
  | e => .other (toString e)

/-- The answer of an action on the file that a path names, if it can name one. -/
def tryFile {α : Type} (path : String) (action : IO α) : IO (Except FileError α) := do
  match Path.ofText path with
  | .error e => return .error e
  | .ok _ =>
    match ← action.toBaseIO with
    | .ok a => return .ok a
    | .error e => return .error (.ofSystem e)

/-- The real world. -/
def realWorld : World IO where
  read path := tryFile path do
    return (← IO.FS.readBinFile path).data.toList
  write path bytes := tryFile path do
    if let some folder := Path.folderText? path then
      IO.FS.createDirAll folder
    IO.FS.writeBinFile path ⟨bytes.toArray⟩
  now := do
    return .ofNanoseconds (← Std.Time.Timestamp.now).toNanosecondsSinceUnixEpoch.toInt
  print line := IO.println line
  -- programs are scored one after another, so there is nobody to wait for
  workers := .boundless

end AntTrail

/-- The environment variable that names the settings file. -/
def settingsVariable : String := "ANT_GP_CONFIG"

def main : IO UInt32 := do
  let path ← IO.getEnv settingsVariable
  match ← (AntTrail.Session.run AntTrail.realWorld path).run with
  | .ok () => return 0
  | .error e =>
    IO.eprint e.report
    return e.exitCode
