import AntTrail.Files.Path

/-!
A tree of files and folders, and the folder in it where paths begin.

Writing makes the folders on the way that are missing, and those that were made stay
even if it then fails.
-/
namespace AntTrail

/-- What stands at a place. -/
inductive Entry where
  | file (bytes : List UInt8)
  /-- A file that is always empty: what is written to it is lost. -/
  | sink
  | folder
deriving DecidableEq, Repr

/-- A tree: the places below its root, as lists of names, and what stands there. -/
structure FileTree where
  /-- The folder where paths begin. -/
  home : List String
  entries : List (List String × Entry)

namespace FileTree

/-- An empty folder to work in, beside a device that keeps nothing. -/
def fresh : FileTree where
  home := ["tmp", "work"]
  entries := [(["tmp"], .folder), (["tmp", "work"], .folder), (["dev"], .folder),
    (["dev", "null"], .sink)]

/-- What stands at a place. -/
def at? (t : FileTree) (place : List String) : Option Entry :=
  if place.isEmpty then some .folder else t.entries.lookup place

/-- The tree with another entry at a place. -/
def insert (t : FileTree) (place : List String) (e : Entry) : FileTree :=
  { t with entries := (place, e) :: t.entries.filter fun entry => entry.1 != place }

/-- The paths of all files below the folder where paths begin, in ascending order. -/
def filePaths (t : FileTree) : List String :=
  let paths := t.entries.filterMap fun (place, e) =>
    match e with
    | .file _ =>
      if t.home.isPrefixOf place then some ("/".intercalate (place.drop t.home.length)) else none
    | _ => none
  paths.mergeSort fun a b => decide (a ≤ b)

/-- What stands in a folder under a name. -/
def child (t : FileTree) (place : List String) (name : String) :
    Except FileError (Option Entry) :=
  if Path.maxNameSize < name.utf8ByteSize then .error .nameTooLong
  else .ok (t.at? (place ++ [name]))

/-- The folder to which some steps lead from another. -/
def enter (t : FileTree) : (place : List String) → List PathStep → Except FileError (List String)
  | place, [] => .ok place
  | place, .here :: steps => t.enter place steps
  | place, .up :: steps => t.enter place.dropLast steps
  | place, .into name :: steps => do
    match ← t.child place name with
    | some .folder => t.enter (place ++ [name]) steps
    | some _ => throw .notFolder
    | none => throw .notFound

/-- Where a path begins. -/
def beginning (t : FileTree) (p : Path) : List String := if p.isAbsolute then [] else t.home

/-- The folder in which the last step of a path is taken, and the name if it leads
into something. -/
def locate (t : FileTree) (p : Path) : Except FileError (List String × Option String) := do
  let place ← t.enter (t.beginning p) p.steps.dropLast
  match p.steps.getLast? with
  | some (.into name) => return (place, some name)
  | _ => return (place, none)

/-- The bytes of a file. -/
def read (t : FileTree) (path : String) : Except FileError (List UInt8) := do
  let p ← Path.ofText path
  match ← t.locate p with
  | (_, none) => throw .isFolder
  | (place, some name) =>
    match ← t.child place name with
    | some .folder => throw .isFolder
    | some (.file bytes) => if p.endsInSlash then throw .notFolder else return bytes
    | some .sink => if p.endsInSlash then throw .notFolder else return []
    | none => throw .notFound

/-! ## Writing -/

/-- The computations that change a tree. What has been changed stays when they fail. -/
abbrev Change := ExceptT FileError (StateM FileTree)

/-- A look at the tree. -/
def inspect {α : Type} (look : FileTree → Except FileError α) : Change α := do
  match look (← get) with
  | .ok a => return a
  | .error e => throw e

/-- Makes the folders that are missing on some steps. -/
def makeAlong : (place : List String) → List PathStep → Change Unit
  | _, [] => return
  | place, .here :: steps => makeAlong place steps
  | place, .up :: steps => makeAlong place.dropLast steps
  | place, .into name :: steps => do
    match ← inspect (·.child place name) with
    | some .folder => makeAlong (place ++ [name]) steps
    | some _ => throw (if steps.isEmpty then .occupied else .notFolder)
    | none =>
      modify fun t => t.insert (place ++ [name]) .folder
      makeAlong (place ++ [name]) steps

/-- Makes a folder and those on the way to it. -/
def makeFolder (path : String) : Change Unit := do
  let p ← inspect fun _ => Path.ofText path
  makeAlong ((← get).beginning p) p.steps

/-- Writes a file. -/
def write (path : String) (bytes : List UInt8) : Change Unit := do
  if let some folder := Path.folderText? path then makeFolder folder
  let p ← inspect fun _ => Path.ofText path
  match ← inspect (·.locate p) with
  | (_, none) => throw .isFolder
  | (place, some name) =>
    if p.endsInSlash then throw .isFolder
    match ← inspect (·.child place name) with
    | some .folder => throw .isFolder
    | some .sink => return
    | _ => modify fun t => t.insert (place ++ [name]) (.file bytes)

end FileTree
end AntTrail
