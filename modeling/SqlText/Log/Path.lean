/-!
# Paths

A **path** is a list of names from the working directory on. In a path as it is given, `..` steps
up; a *plain* path steps up at its start only, and is what directories and files are kept under. Two
plain paths are taken for two places (see `FileTree`).
-/

namespace SqlText.Log

/-- The names on the way to a directory or a file. A first name `/` stands for the root of all
directories. -/
abbrev Path : Type := List String

namespace Path

/-- Splits characters at slashes. -/
def splitNames : List Char → List (List Char)
  | [] => [[]]
  | c :: rest =>
    if c = '/' then [] :: splitNames rest
    else match splitNames rest with
      | [] => [[c]]
      | name :: names => (c :: name) :: names

/-- Whether a text is a path from the root. -/
def isAbsolute (s : String) : Bool := s.toList.head? == some '/'

/-- The path a text denotes: the names between the slashes, without the empty ones and the single
points. -/
def ofText (s : String) : Path :=
  let names := (splitNames s.toList).map String.ofList
  let named := names.filter fun n => !(n == "" || n == ".")
  if isAbsolute s then "/" :: named else named

/-- A path followed from another one: a path from the root stands for itself. -/
def follow (base path : Path) : Path :=
  if path.head? = some "/" then path else base ++ path

/-- One step up from a plain path. -/
def up (here : Path) : Path :=
  match here.getLast? with
  | none | some ".." => here ++ [".."]
  | some "/" => here
  | some _ => here.dropLast

/-- The plain form of a path, with the steps up taken as they are written. -/
def plain (path : Path) : Path :=
  path.foldl (fun here name => if name = ".." then up here else here ++ [name]) []

/-- The text of a path. -/
def text (path : Path) : String :=
  match path with
  | [] => "."
  | "/" :: names => "/" ++ String.intercalate "/" names
  | names => String.intercalate "/" names

end Path

end SqlText.Log
