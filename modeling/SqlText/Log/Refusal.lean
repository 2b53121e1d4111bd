import SqlText.Attempt
import SqlText.Log.State
import SqlText.Value

/-!
# Refusals of the logging system

Why a request to the logging system fails, and the words for it. A request is an `Attempt` on the
state of logging that writes to the console (`Step`).
-/

namespace SqlText.Log

/-- Why a request to the logging system is refused. -/
inductive Refusal where
  /-- The level is given by something that is no text. -/
  | levelNotText (given : Value)
  /-- Nothing goes by this name. -/
  | noSuchName (word : String)
  /-- The name is that of a text, and no level goes by that text. -/
  | unknownLevel (text : String)
  /-- The name is that of something else. -/
  | notLevel (literal : String)
  /-- The channel is given by something that is no text. -/
  | channelNotText
  /-- The level of a message is given by something that is no whole number. -/
  | levelNotWhole
  /-- The directory is given by something that is no text. -/
  | directoryNotText (given : Value)
  /-- The file is given by something that is no text. -/
  | fileNotText (given : Value)
  /-- The directory or the file cannot be made. -/
  | path (fault : PathFault)

/-- What is said of a refusal. Of a directory or file that cannot be made it is the kind of fault
that counts, and nothing is said but of a name that none can have and of too many missing
directories. -/
def Refusal.message : Refusal → String
  | .levelNotText v => "'" ++ v.typeName ++ "' object has no attribute 'upper'"
  | .noSuchName word => "module 'logging' has no attribute '" ++ word ++ "'"
  | .unknownLevel text => "Unknown level: " ++ Text.quoted text
  | .notLevel literal => "Level not an integer or a valid string: " ++ literal
  | .channelNotText => "A logger name must be a string"
  | .levelNotWhole => "level must be an integer"
  | .directoryNotText v => "expected str, bytes or os.PathLike object, not " ++ v.typeName
  | .fileNotText v => "unsupported operand type(s) for /: 'PosixPath' and '" ++ v.typeName ++ "'"
  | .path .badName => "embedded null byte"
  | .path .tooDeep => "maximum recursion depth exceeded while calling a Python object"
  | .path _ => ""

/-- A step of a request to the logging system, which writes to the console. -/
abbrev Step (α : Type) : Type := Attempt String State Refusal α

end SqlText.Log
