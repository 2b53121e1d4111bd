/-!
# Log entries

A **log entry** is what a part of the library has to say about its work: the channel it speaks
on, a level, and a message. Levels are whole numbers, and a higher one is more urgent; six of them
have names, and any other is named by its number.
-/

namespace SqlText.Log

/-- The urgency of an entry. -/
abbrev Level := Int

namespace Level

/-- The level of entries for whoever traces the library's work. -/
def debug : Level := 10

/-- The name of a level that has one. -/
def name? (level : Level) : Option String :=
  if level = 50 then some "CRITICAL"
  else if level = 40 then some "ERROR"
  else if level = 30 then some "WARNING"
  else if level = 20 then some "INFO"
  else if level = 10 then some "DEBUG"
  else if level = 0 then some "NOTSET"
  else none

/-- What a level is called. -/
def name (level : Level) : String := level.name?.getD ("Level " ++ toString level)

end Level

/-- What is handed to the log. -/
structure Entry where
  /-- The channel spoken on: a dotted name. -/
  channel : String
  /-- How urgent it is. -/
  level : Level
  /-- What is said. -/
  message : String
  /-- What the level is called. It tells how the level was given: one given as a truth value is
  called by that. -/
  levelName : String := level.name
  deriving DecidableEq, Repr

/-- An entry for whoever traces the library's work. -/
def Entry.debug (channel message : String) : Entry :=
  { channel := channel, level := Level.debug, message := message }

end SqlText.Log
