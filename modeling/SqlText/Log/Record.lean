import SqlText.Log.Entry
import SqlText.Log.Timestamp
import SqlText.Template.Fill

/-!
# Records

An entry is spoken on some **occasion**: at a moment, somewhere in a program, in a thread of a
process. A **record** is an entry and its occasion on their way to those who write them down. It is
shared, so what one of them does to it the next one sees, and templates name its parts as fields
(`Record.fields`).

What is known of an entry are texts and a number, but a record can be made of any values, and its
fields keep them as they are. What logging itself puts together is part of the record here: the
message with its arguments in it (`said`), and what is written of an error (`report`). Values of
kinds that `Value` does not have, such as a tuple of arguments or the trace of an error, can stand in
no field.

Fields may also be **added** to a record, by whoever makes it or by those who write it down. They
stand behind all others in the order in which they came. What later versions of logging put on every
record, such as the name of the task, stands there too.
-/

namespace SqlText.Log

/-- When and where something is spoken. -/
structure Occasion where
  /-- When, in whole seconds from the start of 1970. -/
  time : Nat
  /-- The same as a number that may be fractional. -/
  created : Value := .ofNumeral false time 0
  /-- The thousandths of a second. -/
  milliseconds : Value := .ofNumeral false 0 0
  /-- For how long logging had been there then. -/
  sinceStart : Value := .null
  /-- The path of the file of the program. -/
  path : Value := .null
  /-- The name of that file. -/
  file : Value := .null
  /-- The same without its ending. -/
  unit : Value := .null
  /-- The line in that file. -/
  line : Value := .null
  /-- The name of the function. -/
  function : Value := .null
  /-- The number of the thread. -/
  thread : Value := .null
  /-- The name of the thread. -/
  threadName : Value := .text "MainThread"
  /-- The number of the process. -/
  process : Value := .null
  /-- The name of the process. -/
  processName : Value := .text "MainProcess"
  deriving Repr

/-- An entry on the occasion on which it is spoken. -/
structure Spoken extends Entry, Occasion
  deriving Repr

/-- Entries spoken one after another, each on an occasion of its own. -/
def spoken (occasions : Nat → Occasion) (es : List Entry) : List Spoken :=
  es.mapIdx fun i e => { toEntry := e, toOccasion := occasions i }

/-- An entry on its way to those who write it down. -/
structure Record extends Occasion where
  /-- The channel spoken on. -/
  channel : Value
  /-- How urgent it is. -/
  level : Value
  /-- The name of the level. -/
  levelName : Value
  /-- What is said. -/
  message : Value
  /-- What is to be put into the message. -/
  arguments : Value := .null
  /-- The message with the arguments in it, or what is said if they do not fit. -/
  said : Except String String := .ok message.toText
  /-- The error that led to the entry. -/
  error : Value := .null
  /-- What is written of that error. -/
  report : String := ""
  /-- The report, once it was written. -/
  errorText : Option String := none
  /-- The calls that led to the place. -/
  stack : Option String := none
  /-- Further fields. -/
  added : Template.Fields := []
  deriving Repr

/-- The record of an entry. -/
def Spoken.record (e : Spoken) : Record :=
  { toOccasion := e.toOccasion, channel := .text e.channel, level := .int e.level,
    levelName := .text e.levelName, message := .text e.message }

/-- The fields that every record has, in order. -/
def Record.ownFields (r : Record) : Template.Fields :=
  [("name", r.channel), ("msg", r.message), ("args", r.arguments), ("levelname", r.levelName),
    ("levelno", r.level), ("pathname", r.path), ("filename", r.file), ("module", r.unit),
    ("exc_info", r.error), ("exc_text", (r.errorText.map Value.text).getD .null),
    ("stack_info", (r.stack.map Value.text).getD .null), ("lineno", r.line),
    ("funcName", r.function), ("created", r.created), ("msecs", r.milliseconds),
    ("relativeCreated", r.sinceStart), ("thread", r.thread), ("threadName", r.threadName),
    ("processName", r.processName), ("process", r.process)]

/-- **The fields of a record** that templates may name. -/
def Record.fields (r : Record) : Template.Fields := r.ownFields ++ r.added

/-- A record with a value put into a field that was added to it, or is added now. -/
def Record.put (r : Record) (name : String) (v : Value) : Record :=
  { r with added := Template.Fields.put name v r.added }

end SqlText.Log
