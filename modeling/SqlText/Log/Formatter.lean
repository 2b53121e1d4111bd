import SqlText.Log.Record

/-!
# Formatters

A **formatter** turns a record into text by filling in a template, which is refused when the
formatter is made if it has no field at all. Before it does so it adds to the record what templates
may name besides its own fields: the message as it is written, and the time if the template names it
somewhere. Behind the text of the template it writes the report of an error, which is made once and
kept on the record, and the calls that led to the place. **All that is left on the record**, also
where the template cannot be filled in; only the report is not made then.

A colored formatter looks the name of the level up, which a list or an object in its place does not
admit. It first **marks** the record with the sign of its level, and wraps the level's name in the
level's color while it fills in the template. The name it puts back, whatever comes of the template;
the mark stays.
-/

namespace SqlText.Log

/-- What turns records into text. -/
structure Formatter where
  /-- Whether it colors and marks the level. -/
  colored : Bool
  /-- The template it fills in. -/
  template : String
  deriving DecidableEq, Repr

/-- Why a formatter cannot be made, or a record not be written. -/
inductive FormatRefusal where
  /-- The template is no text, but a value of the kind named. -/
  | notText (kind : String)
  /-- The template has no field. -/
  | invalid (template : String)
  /-- The name of the level is a value of a kind that cannot be looked up. -/
  | notName (kind : String)
  /-- The arguments of the message do not fit. -/
  | unsaid (reason : String)
  /-- A directive of the template cannot be filled in. -/
  | fault (f : Template.Fault)
  deriving DecidableEq, Repr

/-- What is said of a refused template. -/
def FormatRefusal.message : FormatRefusal → String
  | .notText kind => "expected string or bytes-like object, got '" ++ kind ++ "'"
  | .invalid template => "Invalid format '" ++ template ++ "' for '%' style"
  | .notName kind => "unhashable type: '" ++ kind ++ "'"
  | .unsaid reason => reason
  | .fault f => f.message

/-- The template that a value stands for; null and whatever is empty stands for the message
alone. -/
def templateOf (v : Value) : Except FormatRefusal String :=
  if v.isTruthy then
    match v with
    | .text s => .ok s
    | v => .error (.notText v.typeName)
  else .ok "%(message)s"

/-- A formatter with a template, which must have a field. -/
def Formatter.make (colored : Bool) (template : Value) : Except FormatRefusal Formatter :=
  match templateOf template with
  | .error e => .error e
  | .ok t => if Template.hasField t.toList then .ok ⟨colored, t⟩ else .error (.invalid t)

/-- What the colors end with. -/
def resetColor : String := "\x1b[0m"

/-- The colors by name. The last name is no level's: it is that of the color that ends the
others. -/
def colors : List (String × String) :=
  [("DEBUG", "\x1b[36m"), ("INFO", "\x1b[32m"), ("WARNING", "\x1b[33m"), ("ERROR", "\x1b[31m"),
    ("CRITICAL", "\x1b[35m"), ("RESET", resetColor)]

/-- The signs of the levels. -/
def signs : List (String × String) :=
  [("DEBUG", "🔍"), ("INFO", "ℹ️ "), ("WARNING", "⚠️ "), ("ERROR", "❌"), ("CRITICAL", "🔥")]

/-- Whether something can be looked up by a value. -/
def isName : Value → Bool
  | .list _ | .object _ => false
  | _ => true

/-- The sign of a level, empty for a level that has none. -/
def signOf (levelName : Value) : String := (levelName.asText?.bind fun s => signs.lookup s).getD ""

/-- A level's name in its color, or as it is when it has none. -/
def colorize (levelName : Value) : Value :=
  match levelName.asText?.bind (fun s => colors.lookup s) with
  | some color => .text (color ++ levelName.toText ++ resetColor)
  | none => levelName

/-- Whether a text has the field of the time in it, written out or not. -/
def namesTime : List Char → Bool
  | [] => false
  | c :: rest => "%(asctime)".toList.isPrefixOf (c :: rest) || namesTime rest

/-- A record ready for a template to be filled in: with the message on it, and with the time. -/
def Record.ready (r : Record) (template message : String) : Record :=
  let r := r.put "message" (.text message)
  if namesTime template.toList then r.put "asctime" (.text (timeText r.time)) else r

/-- Whether there is an error whose report was not made yet. -/
def Record.owesReport (r : Record) : Bool := r.error.isTruthy && r.errorText.getD "" == ""

/-- A record on which the report of its error is made. -/
def Record.reported (r : Record) : Record :=
  if r.owesReport then { r with errorText := some r.report } else r

/-- A text with another one behind it, which starts a new line. -/
def addLines (s : String) (more : Option String) : String :=
  if more.getD "" = "" then s
  else if s.toList.getLast? = some '\n' then s ++ more.getD "" else s ++ "\n" ++ more.getD ""

/-- The text of a template with what is written behind it: the report of an error, and the calls. -/
def Record.finish (r : Record) (s : String) : String :=
  addLines (addLines s r.reported.errorText) r.stack

/-- **Writes a record** in a template: its text, or why there is none, and the record afterwards. -/
def Record.write (r : Record) (template : String) : Except FormatRefusal String × Record :=
  match r.said with
  | .error reason => (.error (.unsaid reason), r)
  | .ok message =>
    let r := r.ready template message
    match Template.fill r.fields template with
    | .error e => (.error (.fault e), r)
    | .ok s => (.ok (r.finish s), r.reported)

/-- A record with the mark of its level. -/
def Record.marked (r : Record) : Record := r.put "emoji" (.text (signOf r.levelName))

/-- **Formats a record**: its text, or why there is none, and the record afterwards. -/
def Formatter.format (f : Formatter) (r : Record) : Except FormatRefusal String × Record :=
  if f.colored then
    if isName r.levelName then
      let written := { r.marked with levelName := colorize r.levelName }.write f.template
      (written.1, { written.2 with levelName := r.levelName })
    else (.error (.notName r.levelName.typeName), r)
  else r.write f.template

/-- Makes a formatter and formats a record with it. A formatter that cannot be made leaves the
record alone. -/
def formatWith (colored : Bool) (template : Value) (r : Record) :
    Except FormatRefusal String × Record :=
  match Formatter.make colored template with
  | .error e => (.error e, r)
  | .ok f => f.format r

/-- Formats one record with several formatters in turn: what each gives, and the record after
it. -/
def formatAll (r : Record) : List (Bool × Value) → List (Except FormatRefusal String × Record)
  | [] => []
  | (colored, template) :: rest =>
    formatWith colored template r :: formatAll (formatWith colored template r).2 rest

end SqlText.Log
