import SqlText.Proofs.Log.Handlers
import SqlText.Proofs.Log.Library

/-!
# Console and file agree

A setup with a colored console and a log file hands every record to the console first, which marks
it and wraps the name of its level while it writes. The file shows nothing of that: until the next
setup **the two get the same entries in the same order**, the file the plain line of each, and the
console that line with the sign of the level in front and the level's name in its color
(`console_and_file_agree`). A level without a name of its own has no sign and no color.
-/

namespace SqlText.Log

variable {s : State} {r : Request} {su : Setup} {level : Level} {rs : List Request}
variable {console : Option Bool} {path : Option Path}

/-! ## Decorated lines -/

/-- The levels that are decorated on a colored console: their names, signs and colors. -/
def decorations : List (String × String × String) :=
  [("DEBUG", "🔍", "\x1b[36m"), ("INFO", "ℹ️ ", "\x1b[32m"), ("WARNING", "⚠️ ", "\x1b[33m"),
    ("ERROR", "❌", "\x1b[31m"), ("CRITICAL", "🔥", "\x1b[35m")]

/-- The line of an entry on a colored console. -/
def decorated (e : Spoken) : String :=
  match decorations.lookup e.levelName with
  | some (sign, color) =>
    sign ++ " " ++ lineOf e.time e.channel (color ++ e.levelName ++ "\x1b[0m") e.message
  | none => " " ++ lineOf e.time e.channel e.levelName e.message

/-- What is looked up in a table of pairs of which the second parts were changed. -/
theorem lookup_map_snd {α β γ : Type} [BEq α] (f : β → γ) (a : α) (l : List (α × β)) :
    (l.map fun x => (x.1, f x.2)).lookup a = (l.lookup a).map f := by
  induction l with
  | nil => rfl
  | cons x rest ih =>
    rw [List.map_cons, List.lookup_cons, List.lookup_cons, ih]
    cases a == x.1 <;> rfl

/-- What a level is called never is the name of the color that ends the others: six levels have a
name, and whatever else is given for a level is called by a longer text. -/
theorem nameOf_ne_reset (v : Value) : Level.nameOf v ≠ "RESET" := by
  have hnamed : ∀ n : Level, n.name? ≠ some "RESET" := by
    intro n
    unfold Level.name?
    repeat' split
    all_goals simp
  unfold Level.nameOf
  cases hname : v.equalInt?.bind Level.name? with
  | some name =>
    obtain ⟨n, -, hn⟩ := Option.bind_eq_some_iff.1 hname
    rintro rfl
    exact hnamed n hn
  | none =>
    intro h
    have hfirst := congrArg (fun s => s.toList.head?) h
    simp at hfirst

/-- No entry that a request delivers is called by that name. -/
theorem levelName_ne_reset {e : Spoken} (h : e ∈ r.entries) : e.levelName ≠ "RESET" := by
  cases r with
  | setUp | setUpFrom | setUpOnce | channel => cases h
  | log name level message occasion =>
    simp only [Request.entries] at h
    split at h
    · rw [List.mem_singleton.1 h]
      exact nameOf_ne_reset level
    · cases h
  | compose requests occasions =>
    obtain ⟨channel, -, message, hentry⟩ :=
      writesOnly_answerAll requests Composer.fresh _ (toEntry_mem_of_mem_spoken h)
    rw [hentry]
    exact show "DEBUG" ≠ "RESET" by decide

/-- **A colored console decorates** the five levels that have a name and a color. The color that
ends the others has a name too, which is none of a level. -/
theorem line_colored {e : Spoken} (h : e.levelName ≠ "RESET") :
    (Target.console true).line e = decorated e := by
  have hsign : signs.lookup e.levelName = (decorations.lookup e.levelName).map Prod.fst :=
    lookup_map_snd Prod.fst e.levelName decorations
  have hcolor : colors.lookup e.levelName = (decorations.lookup e.levelName).map Prod.snd := by
    have hother : [("RESET", resetColor)].lookup e.levelName = none := by
      rw [List.lookup_cons, beq_eq_false_iff_ne.2 h]
      rfl
    rw [← lookup_map_snd Prod.snd e.levelName decorations,
      show colors = (decorations.map fun x => (x.1, x.2.2)) ++ [("RESET", resetColor)] from rfl,
      List.lookup_append, hother, Option.or_none]
  simp only [Target.line, signOf, colorize, Value.asText?, Option.bind_some, hsign, hcolor,
    decorated]
  cases decorations.lookup e.levelName with
  | none => rfl
  | some d => rfl

/-! ## Runs without a setup -/

/-- Whether a request asks for a setup. -/
def Request.isSetup : Request → Bool
  | .setUp _ | .setUpFrom _ | .setUpOnce _ => true
  | _ => false

/-- What a run of requests writes to the console. -/
def State.printedAll (s : State) : List Request → List String
  | [] => []
  | r :: rest => s.printed r ++ (s.after r).printedAll rest

/-- **The entries of a run that are written down** by handlers of a level. -/
def State.takenAll (s : State) (level : Level) : List Request → List Spoken
  | [] => []
  | r :: rest => s.taken level r.entries ++ (s.after r).takenAll level rest

theorem setup?_of_not_isSetup (h : r.isSetup = false) (s : State) : r.setup? s = none := by
  cases r with
  | setUp | setUpFrom | setUpOnce => cases h
  | channel | log | compose => rfl

/-- **A run without a setup** writes the same entries to the console and to the log file. -/
theorem State.Fitted.written_all (hs : s.Fitted console path level)
    (hrs : ∀ r ∈ rs, r.isSetup = false) :
    s.printedAll rs = consoleLines console (s.takenAll level rs)
      ∧ (s.runAll rs).files = s.files.log path (s.takenAll level rs) := by
  induction rs generalizing s with
  | nil => exact ⟨consoleLines_nil.symm, (log_nil _).symm⟩
  | cons r rest ih =>
    have hsetup := setup?_of_not_isSetup (hrs r List.mem_cons_self) s
    obtain ⟨hlines, hfiles⟩ := hs.written r
    have haccepted : r.accepted? s = none := by rw [Request.accepted?, hsetup]; rfl
    obtain ⟨hmore, hrest⟩ := ih (hs.after_of_none haccepted) fun r hr =>
      hrs r (List.mem_cons_of_mem _ hr)
    rw [State.printedAll, State.takenAll, consoleLines_append, log_append, ← hlines, ← hmore,
      ← hfiles hsetup, ← hrest]
    exact ⟨rfl, rfl⟩

/-- No entry of a run is called by the name of the color that ends the others. -/
theorem levelName_of_mem_takenAll {e : Spoken} (h : e ∈ s.takenAll level rs) :
    e.levelName ≠ "RESET" := by
  induction rs generalizing s with
  | nil => cases h
  | cons r rest ih =>
    rcases List.mem_append.1 h with h | h
    · obtain ⟨e', hmem, rfl⟩ := State.mem_passed (List.mem_filter.1 h).1
      exact (levelName_ne_reset hmem : e'.levelName ≠ "RESET")
    · exact ih h

/-- A setup with a log file that goes through has it in place. -/
theorem place_of_done (hfile : su.file.isTruthy = true)
    (hdone : s.reply (.setUp su) = .ok .done) :
    ∃ n p, levelOf su.level = .ok n ∧ (su.place s.files).2 = .ok (some p) := by
  rw [State.reply, run_answer_setup (r := .setUp su) rfl] at hdone
  cases hlevel : levelOf su.level with
  | error e =>
    rw [run_setUp_refused hlevel] at hdone
    cases hdone
  | ok n =>
    rw [run_setUp_accepted hlevel] at hdone
    cases hplace : (su.place s.files).2 with
    | error e =>
      rw [hplace] at hdone
      cases hdone
    | ok found =>
      obtain ⟨p, rfl⟩ := exists_place hfile hplace
      exact ⟨n, p, rfl, rfl⟩

/-- **Console and file agree.** After a setup with a colored console and a log file that goes
through, and over any run that asks for no further setup, the console and the file get the same
entries: the file the plain line of each at its end, the console the decorated one. -/
theorem console_and_file_agree (s : State) (su : Setup) (hconsole : su.console = true)
    (hcolors : su.colors = true) (hfile : su.file.isTruthy = true)
    (hdone : s.reply (.setUp su) = .ok .done) (rs : List Request)
    (hrs : ∀ r ∈ rs, r.isSetup = false) :
    let t := s.after (.setUp su)
    ∃ n p text, levelOf su.level = .ok n ∧ su.logFile? = some p
      ∧ t.files.node? p = some (.file text)
      ∧ t.printedAll rs = (t.takenAll n rs).map (fun e => decorated e ++ "\n")
      ∧ (t.runAll rs).files.node? p
          = some (.file (text ++ String.join ((t.takenAll n rs).map fun e =>
              lineOf e.time e.channel e.levelName e.message ++ "\n"))) := by
  intro t
  obtain ⟨n, p, hlevel, hplace⟩ := place_of_done hfile hdone
  have hfitted : t.Fitted (some true) (some p) n := by
    have h := fitted_after (s := s) (r := .setUp su) rfl (congrArg Except.toOption hlevel)
    rwa [Setup.console?, if_pos hconsole, hcolors, hplace] at h
  obtain ⟨hlines, hfiles⟩ := hfitted.written_all hrs
  obtain ⟨text, htext⟩ := hfitted.file p rfl
  refine ⟨n, p, text, hlevel, (place_ok hplace).1, htext, ?_, ?_⟩
  · rw [hlines]
    refine List.map_congr_left fun e he => ?_
    rw [line_colored (levelName_of_mem_takenAll he)]
  · rw [hfiles, node?_log, if_pos rfl, htext]
    rfl

/-- A message with a directive and a line break in it, and a level without a name: the file gets
them as they are. -/
theorem console_and_file_agree_app_log :
    let su : Setup := { file := .text "app.log" }
    let rs : List Request :=
      [.log (.text "db") (.int 40) (.text "50%s\nERROR") { time := 0 },
        .log (.text "db") (.int 35) (.text "odd") { time := 1000000000 }]
    let t := State.start.after (.setUp su)
    State.start.reply (.setUp su) = .ok .done ∧ (∀ r ∈ rs, r.isSetup = false)
      ∧ t.printedAll rs
        = ["❌ 1970-01-01 00:00:00 - db - \x1b[31mERROR\x1b[0m - 50%s\nERROR\n",
            " 2001-09-09 01:46:40 - db - Level 35 - odd\n"]
      ∧ (t.runAll rs).files.node? ["logs", "app.log"]
        = some (.file ("1970-01-01 00:00:00 - db - ERROR - 50%s\nERROR\n"
            ++ "2001-09-09 01:46:40 - db - Level 35 - odd\n")) := by
  intro su rs t
  have hquiet : ∀ r ∈ rs, r.isSetup = false := by decide
  obtain ⟨n, p, text, hlevel, hfile, htext, hlines, hgrown⟩ :=
    console_and_file_agree State.start su rfl rfl rfl rfl rs hquiet
  obtain rfl : 20 = n := Except.ok.inj hlevel
  obtain rfl : ["logs", "app.log"] = p := Option.some.inj hfile
  obtain rfl : "" = text := Node.file.inj (Option.some.inj htext)
  exact ⟨rfl, hquiet, hlines.trans (by decide), hgrown.trans (by decide)⟩

end SqlText.Log
