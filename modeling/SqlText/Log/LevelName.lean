import SqlText.Log.Refusal
import SqlText.Text.Upper

/-!
# Levels by name

A level is given by a word, in any case (`levelOf`). Besides the words for levels there are two
names that the look-up finds and that are no levels, and what is said of them differs from what is
said of a word that is not found.

The other way round, whatever is given for a level has a name (`nameFor`).
-/

namespace SqlText.Log

/-- What goes by a name that can be given for a level. -/
inductive Named where
  /-- A level. -/
  | level (n : Level)
  /-- A text. -/
  | text (s : String)
  /-- Something else, shown by its literal. -/
  | other (literal : String)
  deriving DecidableEq, Repr

/-- The literal of the table of format styles. -/
def styleTable : String :=
  "\x7b'%': (<class 'logging.PercentStyle'>, '%(levelname)s:%(name)s:%(message)s'), "
    ++ "'\x7b': (<class 'logging.StrFormatStyle'>, '\x7blevelname\x7d:\x7bname\x7d:\x7bmessage\x7d'), "
    ++ "'$': (<class 'logging.StringTemplateStyle'>, "
    ++ "'$\x7blevelname\x7d:$\x7bname\x7d:$\x7bmessage\x7d')\x7d"

/-- What can be named where a level is asked for. -/
def named : List (String × Named) :=
  [("DEBUG", .level 10), ("INFO", .level 20), ("WARNING", .level 30), ("WARN", .level 30),
    ("ERROR", .level 40), ("CRITICAL", .level 50), ("FATAL", .level 50), ("NOTSET", .level 0),
    ("BASIC_FORMAT", .text "%(levelname)s:%(name)s:%(message)s"), ("_STYLES", .other styleTable)]

/-- The level a word names in whatever case, once the word is found at all. -/
def levelOf (v : Value) : Except Refusal Level :=
  match v with
  | .text s =>
    match named.lookup (Text.upper s) with
    | none => .error (.noSuchName (Text.upper s))
    | some (.level n) => .ok n
    | some (.text t) => .error (.unknownLevel t)
    | some (.other l) => .error (.notLevel l)
  | v => .error (.levelNotText v)

/-- What a level is called that is given by any value: a number by its name, if it has one, and
anything else by its text. -/
def Level.nameOf (v : Value) : String := (v.equalInt?.bind Level.name?).getD ("Level " ++ v.toText)

/-- What stands for the name of a level given by any value. A word for a level in upper case has
the level's number in the place of a name. -/
def Level.nameFor (v : Value) : Value :=
  match v.asText?.bind (fun s => named.lookup s) with
  | some (.level n) => .int n
  | _ => .text (Level.nameOf v)

end SqlText.Log
