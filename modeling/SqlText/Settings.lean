import SqlText.Text.Blank
import SqlText.Text.Upper

/-!
# Settings

What the environment says about logging. Four variables count, and each has a default that holds
while it is unset: the level is `INFO`, there is no log file, log files go to `logs`, and the
console is colored. An empty file name is no file name, and the level is read in upper case.
-/

namespace SqlText

/-- The variables of an environment. -/
abbrev Environment : Type := List (String × String)

/-- The logging settings. -/
structure Settings where
  /-- The word for the level, in upper case. -/
  level : String
  /-- The name of the log file, if there is one. -/
  file : Option String
  /-- The directory of the log file. -/
  directory : String
  /-- Whether the console is colored. -/
  colors : Bool
  deriving DecidableEq, Repr

namespace Settings

/-- The words that switch something on. -/
def yesWords : List String := ["1", "true", "yes", "on"]

/-- Whether a word switches something on, in whatever case and between whatever blanks. None of
the words has a letter that is the lower case of a letter beyond ASCII, so it is enough to look at
ASCII letters. -/
def isYes (s : String) : Bool :=
  yesWords.any fun w => w.toList == (Text.trimBlanks s.toList).map Char.toLower

/-- **The settings an environment asks for.** -/
def ofEnvironment (env : Environment) : Settings :=
  { level := Text.upper ((env.lookup "SQLBUILDER_LOG_LEVEL").getD "INFO")
    file := match env.lookup "SQLBUILDER_LOG_FILE" with
      | some "" | none => none
      | some name => some name
    directory := (env.lookup "SQLBUILDER_LOG_DIR").getD "logs"
    colors := isYes ((env.lookup "SQLBUILDER_LOG_COLORS").getD "true") }

end Settings

end SqlText
