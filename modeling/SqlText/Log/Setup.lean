import SqlText.Log.LevelName
import SqlText.Settings

/-!
# Setting logging up

A setup replaces the handlers of the root channel: first the level is looked up and set, then the
old handlers go, then the console and the file are put in place, in this order, both at the level
of the root. **A level that is refused changes nothing; a directory or a file that cannot be made
leaves the level and the console of the setup behind it.**
-/

namespace SqlText.Log

/-- What a setup asks for. -/
structure Setup where
  /-- The word for the level. -/
  level : Value := .text "INFO"
  /-- The name of the log file; null or empty for none. -/
  file : Value := .null
  /-- The directory of the log file; null or empty for the usual one. -/
  directory : Value := .null
  /-- Whether to write to the console. -/
  console : Bool := true
  /-- Whether the console is colored. -/
  colors : Bool := true

/-- The setup that settings ask for. -/
def Setup.ofSettings (s : Settings) : Setup :=
  { level := .text s.level
    file := (s.file.map Value.text).getD .null
    directory := .text s.directory
    colors := s.colors }

/-- The directory of log files where none is named. -/
def usualDirectory : String := "logs"

/-- The directory a setup names. -/
def Setup.directoryPath (s : Setup) : Except Refusal Path :=
  if s.directory.isTruthy then
    match s.directory with
    | .text d => .ok (Path.ofText d)
    | v => .error (.directoryNotText v)
  else .ok (Path.ofText usualDirectory)

/-- The plain path of the log file a setup names. -/
def Setup.filePath (s : Setup) (directory : Path) : Except Refusal Path :=
  match s.file with
  | .text name => .ok (Path.follow directory (Path.ofText name)).plain
  | v => .error (.fileNotText v)

/-- Puts a handler behind the others. -/
def addHandler (h : Handler) : Step Unit :=
  Attempt.update fun s => { s with handlers := s.handlers ++ [h] }

/-- Makes the directory of log files and those missing on the way to it. -/
def makeDirectories (path : Path) : Step Unit := do
  let s ← Attempt.state
  Attempt.update fun s => { s with files := (s.files.makeDirectories path).1 }
  match (s.files.makeDirectories path).2 with
  | .ok _ => pure ()
  | .error e => Attempt.refuse (.path e)

/-- Opens the log file. -/
def openFile (path : Path) : Step Unit := do
  let s ← Attempt.state
  match s.files.openFile path with
  | .ok files => Attempt.update fun s => { s with files := files }
  | .error e => Attempt.refuse (.path e)

/-- Puts the log file of a setup in place. -/
def addFile (s : Setup) (level : Level) : Step Unit := do
  let directory ← Attempt.ofExcept s.directoryPath
  makeDirectories directory
  let path ← Attempt.ofExcept (s.filePath directory)
  openFile path
  addHandler ⟨.file path, level⟩

/-- **Sets logging up.** -/
def setUp (s : Setup) : Step Unit := do
  let level ← Attempt.ofExcept (levelOf s.level)
  Attempt.update fun sys => { sys.setLevel rootName level with handlers := [] }
  if s.console then addHandler ⟨.console s.colors, level⟩
  if s.file.isTruthy then addFile s level

/-- Sets logging up as settings ask for, unless it is set up already. -/
def setUpOnce (settings : Settings) : Step Unit := do
  let s ← Attempt.state
  if s.handlers.isEmpty then setUp (Setup.ofSettings settings)

end SqlText.Log
