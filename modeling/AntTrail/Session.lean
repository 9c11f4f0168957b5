import AntTrail.Board.Text
import AntTrail.Evolution.Engine
import AntTrail.Files
import AntTrail.Program.Parser
import AntTrail.Session.LogFilter
import AntTrail.Settings.Reader
import AntTrail.Text.Quoted
import AntTrail.Transcript

/-!
Sessions: what the program does from its settings to its last line.

With a program in the settings, the session shows it action by action; without
one, it searches for a program by evolution, saves the last state if it should, and
prints the best program. A session knows the world only through `World`, and ends
with an error that names what was attempted and why it failed.
-/
namespace AntTrail

/-- The world around a session. -/
structure World (m : Type → Type) where
  read : String → m (Except FileError (List UInt8))
  /-- Writes a file, in folders that are made if need be. -/
  write : String → List UInt8 → m (Except FileError Unit)
  /-- The present instant. -/
  now : m Timestamp
  /-- Prints a line. -/
  print : String → m Unit
  /-- Starts the workers of a search. -/
  workers : PoolBuilder := .boundless

/-- Why a session ends early. -/
inductive SessionError where
  | settings (path : String) (e : LoadError Json.ReadError)
  | logFilter (e : LogFilter.Refusal)
  | board (path : String) (e : LoadError BoardError)
  | course (e : SettingsError)
  | program (text : String) (e : ParseError)
  | checkpoint (path : String) (e : LoadError CheckpointError)
  | evolution (e : EvolutionError)
  | save (path : String) (e : FileError)
  | fault (f : Fault)

namespace SessionError

/-- What was attempted. -/
def headline : SessionError → String
  | settings path _ => s!"failed to load config from {path}"
  | logFilter e => e.message
  | board path _ => s!"failed to load board from {path}"
  | course _ => "board does not fit the simulation config"
  | program text _ => s!"failed to parse program {Text.quoted text}"
  | checkpoint path _ => s!"failed to load checkpoint {path}"
  | evolution e => e.message
  | save path _ => s!"failed to write checkpoint {path}"
  | fault f => f.message

/-- Why it failed, from the outermost reason to the innermost. -/
def causes : SessionError → List String
  | settings _ e => e.causes RunSettings.unreadable
  | logFilter e => e.causes
  | board _ e => e.causes BoardError.message
  | course e => [e.message]
  | program _ e => [e.message]
  | checkpoint _ e => e.causes CheckpointError.message
  | evolution _ => []
  | save _ e => (LoadError.file (ε := Unit) e).causes fun _ => ""
  | fault _ => []

/-- A text of several lines, the first after `first` and the others after `other`. -/
def indented (first other text : String) : String :=
  first ++ ("\n" ++ other).intercalate (text.splitOn "\n")

/-- The reasons as lines, numbered if there are several. -/
def causeLines : List String → List String
  | [cause] => [indented "    " "    " cause]
  | causes => causes.zipIdx.map fun (cause, i) => indented s!"    {i}: " "       " cause

/-- The report of an error. -/
def report (e : SessionError) : String :=
  let lines := causeLines e.causes
  let why := if lines.isEmpty then [] else "" :: "Caused by:" :: lines
  String.join ((s!"Error: {e.headline}" :: why).map (· ++ "\n"))

/-- The exit code after an error. -/
def exitCode : SessionError → UInt32
  | fault _ => 101
  | _ => 1

end SessionError

namespace Session

variable {m : Type → Type} [Monad m]

/-- Computations in a world that can end early. -/
abbrev Attempt (m : Type → Type) := ExceptT SessionError m

/-- A value without a world. -/
def lift {ε α : Type} (problem : ε → SessionError) (x : Except ε α) : Attempt m α :=
  ExceptT.mk (pure (x.mapError problem))

/-- A value from a file. -/
def load {ε α : Type} (w : World m) (problem : LoadError ε → SessionError)
    (decode : List UInt8 → Except (LoadError ε) α) (path : String) : Attempt m α := do
  let bytes ← lift (problem ∘ .file) (← w.read path)
  lift problem (decode bytes)

/-- An error or a fault of the search. -/
def searchError : Failure EvolutionError → SessionError
  | .error e => .evolution e
  | .fault f => .fault f

/-- The settings, from a file if one is named. -/
def loadSettings (w : World m) : Option String → Attempt m RunSettings
  | none => return {}
  | some path => load w (.settings path) (fromText RunSettings.ofText) path

/-- The course: the board that is set, or the Santa Fe trail. -/
def loadCourse (w : World m) (s : RunSettings) : Attempt m Course := do
  let trial := s.evolution.trial
  let board ← match s.boardPath with
    | some path =>
      load w (.board path) (fromText (Board.ofText · trial.boardWidth trial.boardHeight)) path
    | none => pure Board.santaFe
  lift .course (Course.ofBoard board trial)

/-- Shows a program action by action. -/
def replay (w : World m) (c : Course) (text : String) : Attempt m Unit := do
  let program ← lift (.program text) (Program.parsePostfix Kind.all text)
  let start ← lift .fault c.trial
  w.print (← lift .fault start.text)
  let (transcript, _) ← lift .fault (Transcript.ofProgram c program)
  for (action, t) in transcript.entries do
    w.print s!"{action.word}\n{← lift .fault t.text}"

/-- The search at its beginning, or where a checkpoint was taken. -/
def beginSearch (w : World m) (s : RunSettings) : Attempt m Engine := do
  match s.resumeFrom with
  | none => lift searchError (Engine.new s.evolution w.workers)
  | some path =>
    let decode (bytes : List UInt8) := (Checkpoint.decode bytes).mapError LoadError.content
    let checkpoint ← load w (.checkpoint path) decode path
    lift searchError (Engine.resume s.evolution checkpoint w.workers)

/-- Searches for a program, saves the last state and prints the best program. -/
def search (w : World m) (c : Course) (s : RunSettings) : Attempt m Unit := do
  let engine ← beginSearch w s
  let run := engine.run c.fitness
  discard <| lift searchError run.ending
  if let some path := s.checkpointPath then
    let checkpoint := run.engine.checkpoint (← w.now)
    lift (.save path) (← w.write path checkpoint.encode)
  if let some best := run.engine.best then
    w.print best.program.postfixText

/-- A whole session. -/
def run (w : World m) (settingsPath : Option String) : Attempt m Unit := do
  let s ← loadSettings w settingsPath
  lift .logFilter (LogFilter.check s.logFilter)
  let c ← loadCourse w s
  match s.program with
  | some text => replay w c text
  | none => search w c s

end Session
end AntTrail
