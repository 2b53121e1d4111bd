import SqlText.Attempt
import SqlText.Log.State
import SqlText.Proofs.Log.Formatting

/-!
# The line of an entry

Both templates that handlers write in are made of text fields with characters between them, and
every record has these fields, so **no record is ever refused**: what a handler writes of an entry
is one line, and the line is known (`Target.line`). A colored console and a file write the same
parts in the same order; the console has the sign of the level in front and the level's name in its
color.

One record is handed from handler to handler, and each leaves something on it, but nothing that
another one would see: it is the record of its entry still (`Record.IsOf`), so what comes behind a
colored console is written as if there were none (`format_target`). The occasion on which an entry
is spoken has no part in its line but the time.
-/

namespace SqlText.Log

open Template

/-! ## The two templates -/

/-- The pieces of the plain template. -/
theorem pieces_plainFormat :
    pieces plainFormat
      = .directive (textField "asctime" 10) :: (literals " - "
        ++ .directive (textField "name" 21) :: (literals " - "
        ++ .directive (textField "levelname" 37) :: (literals " - "
        ++ [.directive (textField "message" 51)]))) := by
  decide

/-- The pieces of the colored template: the sign of the level, and the plain ones. -/
theorem pieces_coloredFormat :
    pieces coloredFormat
      = .directive (textField "emoji" 8) :: (literals " "
        ++ .directive (textField "asctime" 20) :: (literals " - "
        ++ .directive (textField "name" 31) :: (literals " - "
        ++ .directive (textField "levelname" 47) :: (literals " - "
        ++ [.directive (textField "message" 61)])))) := by
  decide

/-- A line of the log: when something was said, on which channel, how urgent it is, and what was
said. -/
def lineOf (time : Nat) (channel levelName message : String) : String :=
  timeText time ++ " - " ++ channel ++ " - " ++ levelName ++ " - " ++ message

variable {r : Record} {message : String} {t : Target} {e : Spoken}

/-- **Every record has a text in the plain template.** -/
theorem fill_plainFormat (r : Record) (message : String) :
    fill (r.ready plainFormat message).fields plainFormat
      = .ok (lineOf r.time r.channel.toText r.levelName.toText message) := by
  have htime := lookup_ready_time (t := plainFormat) (by decide) r message
  have hname : (r.ready plainFormat message).fields.lookup "name" = some r.channel :=
    lookup_ready_of_ne (by decide) (by decide) r _ _
  have hlevel : (r.ready plainFormat message).fields.lookup "levelname" = some r.levelName :=
    lookup_ready_of_ne (by decide) (by decide) r _ _
  have hmessage := lookup_ready_message r plainFormat message
  rw [fill, pieces_plainFormat]
  simp only [fillFrom_textField htime, fillFrom_literals, fillFrom_textField hname,
    fillFrom_textField hlevel, fillFrom_textField hmessage, fillFrom_nil, Except.map,
    Value.toText_text, lineOf, List.append_nil]
  refine congrArg Except.ok (String.toList_inj.1 ?_)
  simp only [String.toList_ofList, String.toList_append, List.append_assoc]

/-- **Every marked record has a text in the colored template**: its mark, and its text in the plain
one. -/
theorem fill_coloredFormat {mark : String} (h : r.fields.lookup "emoji" = some (.text mark))
    (message : String) :
    fill (r.ready coloredFormat message).fields coloredFormat
      = .ok (mark ++ " " ++ lineOf r.time r.channel.toText r.levelName.toText message) := by
  have hmark : (r.ready coloredFormat message).fields.lookup "emoji" = some (.text mark) :=
    (lookup_ready_of_ne (by decide) (by decide) r _ _).trans h
  have htime := lookup_ready_time (t := coloredFormat) (by decide) r message
  have hname : (r.ready coloredFormat message).fields.lookup "name" = some r.channel :=
    lookup_ready_of_ne (by decide) (by decide) r _ _
  have hlevel : (r.ready coloredFormat message).fields.lookup "levelname" = some r.levelName :=
    lookup_ready_of_ne (by decide) (by decide) r _ _
  have hmessage := lookup_ready_message r coloredFormat message
  rw [fill, pieces_coloredFormat]
  simp only [fillFrom_textField hmark, fillFrom_textField htime, fillFrom_literals,
    fillFrom_textField hname, fillFrom_textField hlevel, fillFrom_textField hmessage,
    fillFrom_nil, Except.map, Value.toText_text, lineOf, List.append_nil]
  refine congrArg Except.ok (String.toList_inj.1 ?_)
  simp only [String.toList_ofList, String.toList_append, List.append_assoc]

/-! ## Lines -/

/-- **The line of an entry** at a target. -/
def Target.line (e : Spoken) : Target → String
  | .console true =>
    signOf (.text e.levelName) ++ " "
      ++ lineOf e.time e.channel (colorize (.text e.levelName)).toText e.message
  | .console false | .file _ => lineOf e.time e.channel e.levelName e.message

/-- **A record is that of an entry**, whatever else it tells of the occasion and whatever was left
on it. -/
structure Record.IsOf (r : Record) (e : Spoken) : Prop where
  /-- Nothing is to be written behind its template, and it has the message of the entry. -/
  bare : r.Bare e.message
  /-- It has the moment at which the entry is spoken. -/
  time : r.time = e.time
  /-- It has the channel. -/
  channel : r.channel = .text e.channel
  /-- It has the name of the level. -/
  levelName : r.levelName = .text e.levelName

theorem isOf_record (e : Spoken) : e.record.IsOf e :=
  ⟨⟨rfl, rfl, rfl, rfl⟩, rfl, rfl, rfl⟩

namespace Record.IsOf

theorem put (h : r.IsOf e) (name : String) (v : Value) : (r.put name v).IsOf e :=
  ⟨h.bare.put name v, h.time, h.channel, h.levelName⟩

theorem ready (h : r.IsOf e) (template : String) : (r.ready template e.message).IsOf e :=
  ready_invariant (P := fun x => x.IsOf e) (fun _ key v _ hx => hx.put key v) h template e.message

theorem write_plainFormat (h : r.IsOf e) :
    r.write plainFormat
      = (.ok (lineOf e.time e.channel e.levelName e.message), r.ready plainFormat e.message) := by
  rw [h.bare.write, fill_plainFormat, h.time, h.channel, h.levelName]
  rfl

/-- In color, it is written with the mark and the color of the level. -/
theorem format_coloredFormat (h : r.IsOf e) :
    ∃ r', (Formatter.format ⟨true, coloredFormat⟩ r)
        = (.ok (Target.line e (.console true)), r') ∧ r'.IsOf e := by
  let wrapped : Record := { r.marked with levelName := colorize r.levelName }
  have hbare : wrapped.Bare e.message := ⟨h.bare.said, h.bare.owes, h.bare.text, h.bare.stack⟩
  have hmark : wrapped.fields.lookup "emoji" = some (.text (signOf (.text e.levelName))) := by
    rw [← h.levelName, lookup_fields]
    exact lookup_put_self _ _ _
  have hname : isName r.levelName = true := by rw [h.levelName]; rfl
  have hwritten : wrapped.write coloredFormat
      = (.ok (Target.line e (.console true)), wrapped.ready coloredFormat e.message) := by
    rw [hbare.write, fill_coloredFormat hmark]
    show (Except.ok (_ ++ lineOf r.time r.channel.toText (colorize r.levelName).toText e.message),
      _) = _
    rw [h.time, h.channel, h.levelName]
    rfl
  refine ⟨{ wrapped.ready coloredFormat e.message with levelName := r.levelName }, ?_, ?_⟩
  · rw [Formatter.format, if_pos rfl, if_pos hname]
    show ((wrapped.write coloredFormat).1, _) = _
    rw [hwritten]
  · obtain ⟨hbare', htime, hchannel, hlevel⟩ :=
      (h.put "emoji" (.text (signOf r.levelName))).ready coloredFormat
    rw [levelName_ready] at hlevel
    rw [ready_levelName]
    exact ⟨⟨hbare'.said, hbare'.owes, hbare'.text, hbare'.stack⟩, htime, hchannel, hlevel⟩

theorem format_bareFormatter (h : r.IsOf e) : (bareFormatter.format r).1 = .ok e.message := by
  have hpieces : pieces "%(message)s" = [.directive (textField "message" 10)] := by decide
  show (r.write "%(message)s").1 = _
  rw [h.bare.write, fill, hpieces, fillFrom_textField (lookup_ready_message r _ e.message),
    fillFrom_nil]
  simp [Except.map, Value.toText_text]

end Record.IsOf

/-- **The record of an entry is written in one line**, and is that of the entry still. -/
theorem format_target (h : r.IsOf e) (t : Target) :
    ∃ r', t.formatter.format r = (.ok (t.line e), r') ∧ r'.IsOf e := by
  match t with
  | .console false | .file path => exact ⟨_, h.write_plainFormat, h.ready _⟩
  | .console true => exact h.format_coloredFormat

end SqlText.Log
