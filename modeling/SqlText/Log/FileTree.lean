import SqlText.Log.Path

/-!
# Directories and files

The part of the file system that log files live in: the directories and files that were made, by
their plain paths. A step up in a path is followed **after** the directory before it was found to
exist.

Directories are made with all that are missing on the way to them, and files are only ever added
to at their end. Nothing is removed and nothing is overwritten.

What the working directory is called is not known here, so a path from the root of all directories,
or one that steps up and comes back by a name, is assumed not to lead into it: what stands at such
a path is kept apart from what stands at the path from the working directory on.
-/

namespace SqlText.Log

/-- What stands at a path. -/
inductive Node where
  /-- A directory. -/
  | directory
  /-- A file and its text. -/
  | file (text : String)
  deriving DecidableEq, Repr

/-- Why a directory or a file cannot be made. -/
inductive PathFault where
  /-- A directory on the way does not exist. -/
  | missing
  /-- There is something at the path already. -/
  | occupied
  /-- Something on the way is no directory. -/
  | notDirectory
  /-- There is a directory where a file should be. -/
  | isDirectory
  /-- A name holds a character that no name can hold. -/
  | badName
  /-- A name or the whole path is too long. -/
  | tooLong
  /-- Too many directories are missing one inside the other. -/
  | tooDeep
  deriving DecidableEq, Repr

/-- The directories and files below the working directory, by their plain paths. -/
structure FileTree where
  /-- What was made, the first made first. -/
  nodes : List (Path × Node) := []
  deriving Repr

namespace FileTree

/-- What stands at a plain path. The working directory and the directories above it always
exist. -/
def node? (t : FileTree) (path : Path) : Option Node :=
  if path.all fun n => n = ".." || n = "/" then some .directory else t.nodes.lookup path

/-- Whether there is a directory at a plain path. -/
def isDirectory (t : FileTree) (path : Path) : Bool := t.node? path == some .directory

/-- How many bytes a name may have. -/
def nameLimit : Nat := 255

/-- What a name stands for in a directory. -/
def entry? (t : FileTree) (here : Path) (name : String) : Except PathFault (Option Node) :=
  if nameLimit < name.utf8ByteSize then .error .tooLong else .ok (t.node? (here ++ [name]))

/-- The plain path that a path leads to, all names of which must be directories. -/
def walk (t : FileTree) (here : Path) : Path → Except PathFault Path
  | [] => .ok here
  | ".." :: rest => walk t (Path.up here) rest
  | name :: rest =>
    match t.entry? here name with
    | .error e => .error e
    | .ok none => .error .missing
    | .ok (some (.file _)) => .error .notDirectory
    | .ok (some .directory) => walk t (here ++ [name]) rest

/-- Whether a name cannot be given to a directory or a file. -/
def isBadName (name : String) : Bool := name.toList.contains '\x00'

/-- How many bytes a path may have. -/
def pathLimit : Nat := 4095

/-- Why a path can lead nowhere, whatever the directories are. -/
def refusal? (path : Path) : Option PathFault :=
  if path.any isBadName then some .badName
  else if pathLimit < path.text.utf8ByteSize then some .tooLong
  else none

/-- Makes one directory. The names of its path come last name first. -/
def makeOne (t : FileTree) : Path → Except PathFault FileTree
  | [] => .error .occupied
  | name :: parents =>
    match t.walk [] parents.reverse with
    | .error e => .error e
    | .ok here =>
      if name = ".." then .error .occupied
      else match t.entry? here name with
        | .error e => .error e
        | .ok (some _) => .error .occupied
        | .ok none => .ok ⟨t.nodes ++ [(here ++ [name], .directory)]⟩

/-- Whether a path, last name first, leads to a directory. -/
def leadsToDirectory (t : FileTree) (names : Path) : Bool :=
  match t.walk [] names.reverse with
  | .ok _ => true
  | .error _ => false

/-- Makes a directory that may exist already. -/
def makeOrKeep (t : FileTree) (names : Path) : FileTree × Except PathFault Unit :=
  match t.makeOne names with
  | .ok t' => (t', .ok ())
  | .error .missing => (t, .error .missing)
  | .error e => if t.leadsToDirectory names then (t, .ok ()) else (t, .error e)

/-- How many directories may be missing one inside the other. They are looked for one call inside
the other, and this is how many calls are left of an interpreter's usual thousand below the caller
that the number was measured with; a caller that stands deeper has fewer. -/
def depthLimit : Nat := 988

/-- Makes a directory and those missing on the way to it; the names of its path come last name
first. They are looked for from the last to the first, `depth` of them having been missed so far,
and nothing is made before the first is found. What was made on the way stays, also where the rest
fails. -/
def makeAll (t : FileTree) (depth : Nat) : Path → FileTree × Except PathFault Unit
  | [] => (t, .ok ())
  | name :: parents =>
    if depthLimit ≤ depth then (t, .error .tooDeep)
    else match t.makeOrKeep (name :: parents) with
    | (_, .error .missing) =>
      match makeAll t (depth + 1) parents with
      | (t', .error e) => (t', .error e)
      | (t', .ok _) => t'.makeOrKeep (name :: parents)
    | outcome => outcome

/-- **Makes a directory** and those missing on the way to it. -/
def makeDirectories (t : FileTree) (path : Path) : FileTree × Except PathFault Unit :=
  match refusal? path with
  | some e => (t, .error e)
  | none => t.makeAll 0 path.reverse

/-- **Opens a file** at a plain path for adding to it, and makes it if it does not exist. -/
def openFile (t : FileTree) (path : Path) : Except PathFault FileTree :=
  match refusal? path, t.walk [] path.dropLast, path.getLast? with
  | some e, _, _ => .error e
  | none, .error e, _ => .error e
  | none, .ok _, none => .error .isDirectory
  | none, .ok _, some name =>
    match t.entry? path.dropLast name with
    | .error e => .error e
    | .ok (some .directory) => .error .isDirectory
    | .ok (some (.file _)) => .ok t
    | .ok none => .ok ⟨t.nodes ++ [(path, .file "")]⟩

/-- Adds a text at the end of a file. -/
def append (t : FileTree) (path : Path) (s : String) : FileTree :=
  ⟨t.nodes.map fun entry =>
    match entry with
    | (p, .file text) => if p = path then (p, .file (text ++ s)) else (p, .file text)
    | other => other⟩

end FileTree

end SqlText.Log
