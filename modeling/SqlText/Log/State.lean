import SqlText.Log.FileTree
import SqlText.Log.Formatter

/-!
# The state of logging

Entries are spoken on **channels**, which have dotted names and form a tree under the root
channel. A channel has a level of its own or takes over that of the nearest channel above it that
has one, and the levels admit an entry whose level is positive and reaches that level
(`State.admits`). **A decision once made is kept**: until a level is set somewhere, a further entry
of the same channel and level passes or not as the first one did (`State.passes`). An entry that
passes becomes one record, which the handlers get one after another; each writes it down if the
entry's level reaches its own (`State.deliver`).

A handler writes to the console or to a file. All files are written in one format, the console in
that format or, colored, with the sign of the level in front. While there is no handler at all,
what passes is not lost if it is a warning or more urgent: the bare message goes to the **stream of
errors**, which nothing else is written to (`State.unhandled`).

All handlers are the root channel's. Console, files and stream are assumed to take every text: a
stream whose encoding lacks some character would refuse the line that has it.
-/

namespace SqlText.Log

/-- The format of log lines. -/
def plainFormat : String := "%(asctime)s - %(name)s - %(levelname)s - %(message)s"

/-- The format of colored log lines. -/
def coloredFormat : String := "%(emoji)s " ++ plainFormat

/-- Where a handler writes. -/
inductive Target where
  /-- The console, colored or not. -/
  | console (colored : Bool)
  /-- The file at a plain path. -/
  | file (path : Path)
  deriving DecidableEq, Repr

/-- The formatter that goes with a target. -/
def Target.formatter : Target → Formatter
  | .console true => ⟨true, coloredFormat⟩
  | .console false => ⟨false, plainFormat⟩
  | .file _ => ⟨false, plainFormat⟩

/-- What writes records down. -/
structure Handler where
  /-- Where it writes. -/
  target : Target
  /-- The least level it writes. -/
  level : Level
  deriving DecidableEq, Repr

/-- The formatter for what no handler is there to take. -/
def bareFormatter : Formatter := ⟨false, "%(message)s"⟩

/-- The least level of what is written without a handler. -/
def bareLevel : Level := 30

/-- The state of logging. -/
structure State where
  /-- The level of the root channel. -/
  rootLevel : Level := 30
  /-- The channels known and their own levels, zero for a channel without one, in the order in
  which they became known. -/
  channels : List (String × Level) := []
  /-- The decisions made since a level was last set: whether entries of a channel and a level
  pass. -/
  decided : List ((String × Level) × Bool) := []
  /-- The handlers, in the order in which they get a record. -/
  handlers : List Handler := []
  /-- The directories and files. -/
  files : FileTree := {}
  /-- What was written to the stream of errors, because no handler was there to take it. -/
  unhandled : List String := []
  deriving Repr

/-! ## Channels -/

/-- The name of the root channel. -/
def rootName : String := "root"

/-- Whether a name is the root channel's. -/
def isRoot (name : String) : Bool := name == "" || name == rootName

/-- The names above a channel, the longest first, from the characters of its name, last character
first: what stands before each point of the name but the first character. Of two points side by
side the second counts and the first does not. -/
def namesAbove : List Char → List (List Char)
  | [] | [_] => []
  | c :: d :: rest =>
    if c = '.' then (d :: rest).reverse :: namesAbove rest else namesAbove (d :: rest)

/-- Whether a name is a beginning of the root channel's. -/
def beginsRootName (name : String) : Bool := name.toList.isPrefixOf rootName.toList

namespace State

/-- The level a channel has of its own. -/
def ownLevel (s : State) (name : String) : Level :=
  if isRoot name then s.rootLevel else (s.channels.lookup name).getD 0

/-- The nearest known channel above a channel. -/
def nearestAbove? (s : State) (name : String) : Option String :=
  ((namesAbove name.toList.reverse).map String.ofList).find? fun n => (s.channels.lookup n).isSome

/-- Whether a channel became known before another one. -/
def knownBefore (s : State) (name other : String) : Bool :=
  let names := s.channels.map Prod.fst
  decide (names.idxOf name < names.idxOf other)

/-- The channel a channel hangs on, if that is not the root. It is the nearest one above, also
where that became known later, with one exception: a channel whose name begins the root's name
leaves those that hung on the root before it where they are. -/
def parent? (s : State) (name : String) : Option String :=
  (s.nearestAbove? name).filter fun above => !(beginsRootName above && s.knownBefore name above)

/-- The level that holds for a channel: its own, or that of the nearest channel above that has
one. The fuel is the length of the name, since every parent's is shorter. -/
def levelFrom (s : State) : Nat → String → Level
  | 0, _ => s.rootLevel
  | fuel + 1, name =>
    if s.ownLevel name ≠ 0 then s.ownLevel name
    else match s.parent? name with
      | some above => levelFrom s fuel above
      | none => s.rootLevel

/-- **The level that holds for a channel.** -/
def effectiveLevel (s : State) (name : String) : Level :=
  if isRoot name then s.rootLevel else s.levelFrom (name.toList.length + 1) name

/-- Makes a channel known. -/
def register (s : State) (name : String) : State :=
  if isRoot name || (s.channels.lookup name).isSome then s
  else { s with channels := s.channels ++ [(name, 0)] }

/-- Gives a known channel a level of its own, and takes every decision back. -/
def setLevel (s : State) (name : String) (level : Level) : State :=
  if isRoot name then { s with rootLevel := level, decided := [] }
  else
    { s with
      channels := s.channels.map fun c => if c.1 = name then (name, level) else c
      decided := [] }

/-! ## Delivery -/

/-- Whether the levels, as they are, admit entries of a level on a channel. -/
def admits (s : State) (channel : String) (level : Level) : Bool :=
  decide (0 < level) && decide (s.effectiveLevel channel ≤ level)

/-- **Whether an entry passes**, to be written down by the handlers that take its level. -/
def passes (s : State) (e : Entry) : Bool :=
  (s.decided.lookup (e.channel, e.level)).getD (s.admits e.channel e.level)

/-- Keeps the decision on an entry. -/
def settle (s : State) (e : Entry) : State :=
  match s.decided.lookup (e.channel, e.level) with
  | some _ => s
  | none => { s with decided := s.decided ++ [((e.channel, e.level), s.passes e)] }

/-- Hands the record of an entry of a level to handlers in turn: the lines for the console, and the
files after it. A record that cannot be formatted is not written. What can be formatted is assumed
to be taken, whatever its characters. -/
def handOut (level : Level) (files : FileTree) (r : Record) :
    List Handler → List String × FileTree
  | [] => ([], files)
  | h :: rest =>
    if h.level ≤ level then
      match h.target.formatter.format r, h.target with
      | (.error _, r'), _ => handOut level files r' rest
      | (.ok line, r'), .console _ =>
        let (lines, files) := handOut level files r' rest
        ((line ++ "\n") :: lines, files)
      | (.ok line, r'), .file path => handOut level (files.append path (line ++ "\n")) r' rest
    else handOut level files r rest

/-- What goes to the stream of errors of a record of a level that passes: its bare message, where no
handler is there to take it. -/
def leftOver (level : Level) (r : Record) (handlers : List Handler) : List String :=
  if handlers.isEmpty && decide (bareLevel ≤ level) then
    match (bareFormatter.format r).1 with
    | .ok line => [line ++ "\n"]
    | .error _ => []
  else []

/-- **Delivers an entry**: the lines for the console, and the state afterwards. -/
def deliver (s : State) (e : Spoken) : List String × State :=
  let e := { e with channel := if isRoot e.channel then rootName else e.channel }
  let s := (s.register e.channel).settle e.toEntry
  if s.passes e.toEntry then
    let (lines, files) := handOut e.level s.files e.record s.handlers
    (lines, { s with
      files := files
      unhandled := s.unhandled ++ leftOver e.level e.record s.handlers })
  else ([], s)

/-- Delivers entries in turn. -/
def deliverAll (s : State) : List Spoken → List String × State
  | [] => ([], s)
  | e :: rest =>
    let (lines, s) := s.deliver e
    let (more, s) := deliverAll s rest
    (lines ++ more, s)

end State

end SqlText.Log
