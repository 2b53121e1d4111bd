import SqlText.Proofs.Log.Decisions

/-!
# The two gates

An entry has to pass two gates: the levels of the channels admit it or not, and then each handler
takes it or not. Giving a channel a level moves the first gate only, and a setup moves both, so
they drift apart; but the second one stands at the level of the last setup whose level was
accepted, and nothing below that is ever written, by no handler twice (`delivery_over_runs`). While
there is no handler there is no second gate, and the first one may be open below the level of the
last setup: then a bare message goes to the stream of errors, if it is a warning or more urgent.

The first gate goes by the nearest name above a channel that has a level, **if the name of the
channel is ordinary**. Elsewhere it need not: a channel whose name begins the root's name does not
take over those that were known before it, and of two points side by side one does not count
(`delivery_past_silent_ancestors`).
-/

namespace SqlText.Log

variable {s : State} {console : Option Bool} {path : Option Path} {n : Level}

/-- The entry that a request to log a message asks for, under the name of its channel. -/
def loggedEntry (channel : String) (m : Level) (level message : Value) (occasion : Occasion) :
    Spoken :=
  Spoken.named
    { toOccasion := occasion, channel := channel, level := m, message := message.toText,
      levelName := Level.nameOf level }

/-- **What a state delivers** with a console or none, a log file or none, and a level at which they
write. -/
structure State.Delivers (s : State) (console : Option Bool) (path : Option Path) (n : Level) :
    Prop where
  /-- The handlers: the console before the file, both at the level. -/
  handlers : s.handlers = outfit console path n
  /-- A file is written in the plain format. -/
  plain : ∀ h ∈ s.handlers, ∀ p, h.target = .file p → h.target.formatter = ⟨false, plainFormat⟩
  /-- Whatever is asked, the entries that pass and reach the level go to the console and to the file
  alike, and none that is below it goes anywhere, but for what goes to the stream of errors. -/
  request : ∀ r, (∀ e ∈ s.taken n r.entries, n ≤ e.level)
    ∧ s.printed r = consoleLines console (s.taken n r.entries)
    ∧ (r.setup? s = none → (s.after r).files = s.files.log path (s.taken n r.entries))
    ∧ (s.after r).unhandled = s.unhandled ++ s.strays r.entries
  /-- A message is written once by each handler where its channel lets its level through and the
  level reaches the handlers', and else not at all. Where there is no handler and its channel lets
  it through, the bare message of a warning, or of what is more urgent, goes to the stream of
  errors. -/
  message : ∀ name level text occasion channel m, channelName name = .ok channel →
    levelNumber level = .ok m →
      let e := loggedEntry channel m level text occasion
      let es := if s.lets e.channel m = true ∧ n ≤ m then [e] else []
      let strays := if s.handlers = [] ∧ s.lets e.channel m = true ∧ bareLevel ≤ m then
        [text.toText ++ "\n"] else []
      s.printed (.log name level text occasion) = consoleLines console es
        ∧ (s.after (.log name level text occasion)).files = s.files.log path es
        ∧ (s.after (.log name level text occasion)).unhandled = s.unhandled ++ strays
  /-- A message that is refused is not written. -/
  refused : ∀ name level text occasion, s.reply (.log name level text occasion) ≠ .ok .done →
    s.printed (.log name level text occasion) = []
      ∧ (s.after (.log name level text occasion)).files = s.files
      ∧ (s.after (.log name level text occasion)).unhandled = s.unhandled

/-- A request to log a message that delivers nothing is refused, and no other is. -/
theorem reply_log_ne_done_iff (s : State) (name level text : Value) (occasion : Occasion) :
    s.reply (.log name level text occasion) ≠ .ok .done
      ↔ (Request.log name level text occasion).entries = [] := by
  have hdone : s.reply (.log name level text occasion) = .ok .done
      ↔ ((log name level text occasion).run s).result = .ok () := by
    rw [State.reply, answer, run_done]
    cases ((log name level text occasion).run s).result <;> simp [Except.map]
  rw [ne_eq, hdone, (run_log name level text occasion s).2.2, ne_eq, Classical.not_not]

/-- One entry is left over where its like passes, no handler is there and it is a warning or more
urgent. -/
theorem strays_entry (s : State) (e : Spoken) :
    s.strays [e]
      = if s.handlers = [] ∧ s.lets e.named.channel e.level = true ∧ bareLevel ≤ e.level then
          [e.message ++ "\n"]
        else [] := by
  rw [State.strays, taken_entry]
  by_cases hnone : s.handlers = []
  · by_cases hpass : s.lets e.named.channel e.level = true ∧ bareLevel ≤ e.level
    · rw [if_pos hnone, if_pos hpass, if_pos ⟨hnone, hpass⟩]
      rfl
    · rw [if_pos hnone, if_neg hpass, if_neg fun h => hpass h.2]
      rfl
  · rw [if_neg hnone, if_neg fun h => hnone h.1]

/-- **A state delivers what its outfit says.** -/
theorem State.Fitted.delivers (hs : s.Fitted console path n) : s.Delivers console path n where
  handlers := hs.handlers
  plain h _ p hp := by rw [hp]; rfl
  request r :=
    ⟨fun e he => of_decide_eq_true (List.mem_filter.1 he).2, (hs.written r).1, (hs.written r).2,
      (move_after s r).unhandled⟩
  message name level text occasion channel m hchannel hlevel := by
    have hentries : (Request.log name level text occasion).entries
        = [{ toOccasion := occasion, channel := channel, level := m, message := text.toText,
             levelName := Level.nameOf level }] := by
      simp only [Request.entries, hchannel, hlevel]
    obtain ⟨hprinted, hfiles⟩ := hs.written (.log name level text occasion)
    have hstrays := (move_after s (.log name level text occasion)).unhandled
    rw [hentries, taken_entry] at hprinted hfiles
    rw [hentries, strays_entry] at hstrays
    exact ⟨hprinted, hfiles rfl, hstrays⟩
  refused name level text occasion hrefused := by
    have hentries := (reply_log_ne_done_iff s name level text occasion).1 hrefused
    obtain ⟨hprinted, hfiles⟩ := hs.written (.log name level text occasion)
    have hstrays := (move_after s (.log name level text occasion)).unhandled
    rw [hentries] at hprinted hfiles hstrays
    rw [State.strays_nil, List.append_nil] at hstrays
    exact ⟨hprinted.trans consoleLines_nil, (hfiles rfl).trans (log_nil _), hstrays⟩

/-- **Delivery over runs.** After any run, from whatever channels and files it starts, the handlers
are at most a console and behind it at most a file, both at the level of the last setup whose level
was accepted, and they write what passes the levels of the channels and reaches their own. Without
a handler the bare messages of what passes go to the stream of errors, if they are warnings or more
urgent, and nothing else ever does. For a channel of an ordinary name the levels of the channels
come to the channel's own level, or that of the nearest name above it that has one, or the root's.
For any channel they come to the level that held for it in the tree of channels when it was first
asked for since a level was last set. -/
theorem delivery_over_runs (w : Surroundings) (rs : List Request) :
    let start := State.start w
    let s := start.runAll rs
    (∃ console path n, s.Delivers console path n
        ∧ (∀ last, (acceptedLevels start rs).getLast? = some last → n = last)
        ∧ (acceptedLevels start rs = [] → s.handlers = []))
      ∧ (∀ name, Ordinary name → ∀ m,
          (s.lets name m = true ↔ 0 < m ∧ s.nearestLevel name ≤ m))
      ∧ ∀ name m, ∃ before after, rs = before ++ after ∧ start.Stands before after name m
          ∧ (s.lets name m = true
              ↔ 0 < m ∧ ((start.runAll before).register name).effectiveLevel name ≤ m) := by
  intro start s
  have hundecided : start.decided = [] := by simp [start, State.start, libraryChannels]
  refine ⟨?_, fun name hname m => ?_, fun name m => ?_⟩
  · obtain ⟨console, path, hs, hnone⟩ := fitted_runAll (fitted_start w 0) rs
    refine ⟨console, path, _, hs.delivers, fun last hlast => ?_, fun hempty => ?_⟩
    · rw [hlast]
      rfl
    · obtain ⟨rfl, rfl⟩ := hnone hempty
      exact hs.handlers
  · exact (settled_runAll (settled_of_nil hundecided) rs).lets_iff hname m
  · obtain ⟨before, after, hrs, hstands, hlets⟩ :=
      exists_stands (knowsLibrary_start w) hundecided rs name m
    refine ⟨before, after, hrs, hstands, ?_⟩
    rw [hlets, State.admits, Bool.and_eq_true, decide_eq_true_iff, decide_eq_true_iff]

/-- The root channel is given a lower level than that of the setups: the first gate is open then,
and the second one is not. Two setups write once. -/
theorem delivery_over_runs_lowered :
    let warnings : Request := .setUp { level := .text "warning", colors := false }
    let rs : List Request := [warnings, warnings, .channel (.text "") (.text "debug")]
    let s := State.start.runAll rs
    s.lets "db" 20 = true
      ∧ s.printed (.log (.text "db") (.int 20) (.text "low") { time := 0 }) = []
      ∧ s.printed (.log (.text "db") (.int 30) (.text "high") { time := 1000000000 })
          = ["2001-09-09 01:46:40 - db - WARNING - high\n"] := by
  intro warnings rs s
  obtain ⟨⟨console, path, n, hdelivers, hlast, -⟩, hordinary, -⟩ := delivery_over_runs {} rs
  obtain rfl : n = 30 := hlast 30 (by decide)
  have hhandlers : s.handlers = [⟨.console false, 30⟩] := by decide
  obtain ⟨rfl, rfl⟩ : console = some false ∧ path = none := by
    have houtfit := hdelivers.handlers
    rw [hhandlers] at houtfit
    cases console <;> cases path <;> simp_all [outfit]
  have hdb : Ordinary "db" := ⟨by decide, by decide⟩
  refine ⟨(hordinary "db" hdb 20).2 (by decide), ?_, ?_⟩
  · have hlow :=
      hdelivers.message (.text "db") (.int 20) (.text "low") { time := 0 } "db" 20 rfl rfl
    exact hlow.1.trans (by decide)
  · have hhigh :=
      hdelivers.message (.text "db") (.int 30) (.text "high") { time := 1000000000 } "db" 30 rfl rfl
    exact hhigh.1.trans (by decide)

/-- **Three messages pass below a level that should keep them back.** The first channel was known
before the one above it, whose name begins the root's; in the name of the second channel two points
stand side by side. The third one has a lower level than that of the only setup, which put no
handler in place. -/
theorem delivery_past_silent_ancestors :
    let rs : List Request := [.setUp { colors := false },
      .log (.text "ro.b.c") (.int 20) (.text "one") { time := 0 },
      .channel (.text "ro") (.text "critical"), .channel (.text "a") (.text "critical")]
    let s := State.start.runAll rs
    let silent : State := State.start.runAll
      [.setUp { level := .text "critical", console := false }, .channel (.text "db") (.text "info")]
    s.handlers = [⟨.console false, 20⟩]
      ∧ s.nearestLevel "ro.b.c" = 50
      ∧ s.printed (.log (.text "ro.b.c") (.int 20) (.text "two") { time := 0 })
          = ["1970-01-01 00:00:00 - ro.b.c - INFO - two\n"]
      ∧ s.nearestLevel "a..b" = 50
      ∧ s.printed (.log (.text "a..b") (.int 20) (.text "three") { time := 0 })
          = ["1970-01-01 00:00:00 - a..b - INFO - three\n"]
      ∧ silent.rootLevel = 50 ∧ silent.handlers = []
      ∧ (silent.after (.log (.text "db") (.int 30) (.text "four") { time := 0 })).unhandled
          = ["four\n"] := by
  decide

end SqlText.Log
