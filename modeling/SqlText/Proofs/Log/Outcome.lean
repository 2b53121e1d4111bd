import SqlText.Proofs.Log.Setup

/-!
# What a request to the log comes to

There are six requests to the logging system and four things that may come of one (`State.Move`): a
setup puts an outfit in place, entries are delivered, a channel becomes known, or a channel is given
a level. What holds of all states that requests lead to is found by looking at these four, and no
request is taken apart again after this module. What is written to the console on the way is what
the entries of the request come to (`printed_eq`).
-/

namespace SqlText.Log

variable {s : State} {r : Request} {su : Setup}

/-! ## Requests -/

/-- The setup that a request carries out, if it does so in the state. -/
def Request.setup? (s : State) : Request → Option Setup
  | .setUp su => some su
  | .setUpFrom env => some (.ofSettings (.ofEnvironment env))
  | .setUpOnce env => if s.handlers = [] then some (.ofSettings (.ofEnvironment env)) else none
  | _ => none

/-- The level of the setup that a request carries out, if it is accepted. -/
def Request.accepted? (s : State) (r : Request) : Option Level :=
  (r.setup? s).bind fun su => (levelOf su.level).toOption

/-- The log file that is named by the setup that a request carries out. -/
def Request.logFile? (s : State) (r : Request) : Option Path := (r.setup? s).bind Setup.logFile?

/-- The channel that a request gives a level and the level, if it does so in the state. A setup
gives one to the root channel. -/
def Request.assigns? (s : State) : Request → Option (String × Level)
  | .channel name level =>
    if level.isTruthy then
      (channelName name).toOption.bind fun n => (levelOf level).toOption.map fun l => (n, l)
    else none
  | r => (r.accepted? s).map fun l => (rootName, l)

/-- **The entries that a request delivers.** -/
def Request.entries : Request → List Spoken
  | .log name level message occasion =>
    match channelName name, levelNumber level with
    | .ok n, .ok l =>
      [{ toOccasion := occasion, channel := n, level := l, message := message.toText,
         levelName := Level.nameOf level }]
    | _, _ => []
  | .compose requests occasions =>
    spoken occasions ((Composer.answerAll requests).run Composer.fresh).written
  | _ => []

/-- What a request writes to the console. -/
def State.printed (s : State) (r : Request) : List String := ((answer r).run s).written

/-- What is answered to a request. -/
def State.reply (s : State) (r : Request) : Except Failure Reply := ((answer r).run s).result

/-- **What may come of a request.** -/
inductive State.Move (s : State) (r : Request) : State → Prop where
  /-- A setup puts its outfit in place. -/
  | fitOut (su : Setup) (n : Level) (hsetup : r.setup? s = some su)
      (hlevel : levelOf su.level = .ok n) : Move s r (s.fitOut su n)
  /-- Entries are delivered, or nothing is done. -/
  | deliver (hassigns : r.assigns? s = none) : Move s r (s.deliverAll r.entries).2
  /-- A channel becomes known. -/
  | register (name : String) (hassigns : r.assigns? s = none) (hentries : r.entries = []) :
      Move s r (s.register name)
  /-- A channel becomes known and is given a level. -/
  | assign (name : String) (n : Level) (hassigns : r.assigns? s = some (name, n))
      (hsetup : r.setup? s = none) (hentries : r.entries = []) :
      Move s r ((s.register name).setLevel name n)

theorem run_done (x : Step Unit) (s : State) :
    (do x.mapRefusal Failure.refused; return .done : Attempt String State Failure Reply).run s
      = ⟨((x.run s).result.mapError Failure.refused).map fun _ => .done, (x.run s).written,
          (x.run s).state⟩ :=
  Attempt.run_bind_pure (x.mapRefusal Failure.refused) _ s

/-- A request that carries out a setup comes to what the setup does. -/
theorem run_answer_setup (h : r.setup? s = some su) :
    (answer r).run s
      = ⟨(((setUp su).run s).result.mapError .refused).map fun _ => .done,
          ((setUp su).run s).written, ((setUp su).run s).state⟩ := by
  cases r with
  | setUp su' =>
    obtain rfl := Option.some.inj h
    rw [answer, run_done]
  | setUpFrom env =>
    obtain rfl := Option.some.inj h
    rw [answer, run_done]
  | setUpOnce env =>
    obtain ⟨hempty, hsu⟩ := Option.ite_none_right_eq_some.1 h
    obtain rfl := Option.some.inj hsu
    have honce : ∀ settings, (setUpOnce settings).run s = (setUp (.ofSettings settings)).run s := by
      intro settings
      rw [setUpOnce, Attempt.run_bind_ok (Attempt.run_state s), Outcome.after_nil,
        if_pos (List.isEmpty_iff.2 hempty)]
    rw [answer, run_done, honce]
  | channel | log | compose => cases h

/-- Setting up once does nothing where there are handlers. -/
theorem run_answer_setUpOnce (h : s.handlers ≠ []) (env : Environment) :
    (answer (.setUpOnce env)).run s = ⟨.ok .done, [], s⟩ := by
  have honce : ∀ settings, (setUpOnce settings).run s = ⟨.ok (), [], s⟩ := by
    intro settings
    rw [setUpOnce, Attempt.run_bind_ok (Attempt.run_state s),
      if_neg (mt List.isEmpty_iff.1 h)]
    rfl
  rw [answer, run_done, honce]
  rfl

/-! ## Channels and entries -/

/-- A channel that is known stays as it is. -/
theorem register_register (s : State) (name : String) :
    (s.register name).register name = s.register name := by
  unfold State.register
  by_cases h : (isRoot name || (s.channels.lookup name).isSome) = true
  · simp only [if_pos h]
  · rw [if_neg h]
    have hknown : ((s.channels ++ [(name, 0)]).lookup name).isSome = true := by
      rw [List.lookup_append, Option.isSome_or]
      simp
    simp [hknown]

theorem register_of_isRoot {name : String} (h : isRoot name = true) (s : State) :
    s.register name = s := by
  simp [State.register, h]

/-- An entry makes its channel known by itself. -/
theorem deliver_register (s : State) (e : Spoken) :
    (s.register e.channel).deliver e = s.deliver e := by
  by_cases h : isRoot e.channel = true
  · rw [register_of_isRoot h]
  · have hname : e.named.channel = e.channel := if_neg h
    have hhear : (s.register e.channel).hear e = s.hear e := by
      rw [State.hear, State.hear, hname, register_register]
    rw [State.deliver_eq, State.deliver_eq, hhear, State.files_register, State.handlers_register,
      State.unhandled_register]

theorem deliverAll_singleton (s : State) (e : Spoken) : s.deliverAll [e] = s.deliver e := by
  simp [State.deliverAll]

/-- Looking a channel up makes it known, and gives it a level of its own if one is given; it writes
nothing. -/
theorem run_channel {name : Value} {known : String} (h : channelName name = .ok known)
    (level : Value) (s : State) :
    ((channel name level).run s).written = []
      ∧ ((channel name level).run s).state
        = match Request.assigns? s (.channel name level) with
          | some (_, l) => (s.register known).setLevel known l
          | none => s.register known := by
  have hname : (Attempt.ofExcept (channelName name) : Step String).run s = ⟨.ok known, [], s⟩ := by
    rw [Attempt.run_ofExcept, h]
  rw [channel, Attempt.run_bind_ok hname, Outcome.after_nil,
    Attempt.run_bind_ok (Attempt.run_update _ s), Outcome.after_nil]
  simp only [Request.assigns?, h]
  by_cases hgiven : level.isTruthy = true
  · simp only [if_pos hgiven]
    cases levelOf level with
    | error e =>
      rw [Attempt.run_bind_error (Attempt.run_ofExcept _ _)]
      exact ⟨rfl, rfl⟩
    | ok l =>
      rw [Attempt.run_bind_ok (Attempt.run_ofExcept _ _), Outcome.after_nil]
      exact ⟨rfl, rfl⟩
  · simp only [if_neg hgiven]
    exact ⟨rfl, rfl⟩

/-- Logging makes the channel known, and delivers the entry if the level is a whole number. It is
refused where there is no entry to deliver. -/
theorem run_log (name level message : Value) (occasion : Occasion) (s : State) :
    let o := (log name level message occasion).run s
    let es := (Request.log name level message occasion).entries
    o.written = (s.deliverAll es).1
      ∧ (o.state = (s.deliverAll es).2 ∨ es = [] ∧ ∃ known, o.state = s.register known)
      ∧ (o.result = .ok () ↔ es ≠ []) := by
  simp only [Request.entries, log]
  cases channelName name with
  | error e =>
    rw [Attempt.run_bind_error (Attempt.run_ofExcept _ _)]
    exact ⟨rfl, .inl rfl, by simp⟩
  | ok known =>
    rw [Attempt.run_bind_ok (Attempt.run_ofExcept _ _), Outcome.after_nil,
      Attempt.run_bind_ok (Attempt.run_update _ s), Outcome.after_nil]
    cases levelNumber level with
    | error e =>
      rw [Attempt.run_bind_error (Attempt.run_ofExcept _ _)]
      exact ⟨rfl, .inr ⟨rfl, known, rfl⟩, by simp⟩
    | ok n =>
      rw [Attempt.run_bind_ok (Attempt.run_ofExcept _ _), Outcome.after_nil, deliverAll_singleton,
        ← deliver_register]
      exact ⟨rfl, .inl rfl, iff_of_true rfl (List.cons_ne_nil _ _)⟩

/-! ## What a request comes to -/

theorem entries_of_setup (h : r.setup? s = some su) : r.entries = [] := by
  cases r with
  | setUp | setUpFrom | setUpOnce => rfl
  | channel | log | compose => cases h

/-- What a setup comes to: its outfit, or nothing. -/
theorem move_setup (h : r.setup? s = some su) :
    s.printed r = (s.deliverAll r.entries).1 ∧ s.Move r (s.after r) := by
  have hentries := entries_of_setup h
  have hassigns : r.assigns? s = (r.accepted? s).map fun l => (rootName, l) := by
    cases r with
    | setUp | setUpFrom | setUpOnce => rfl
    | channel | log | compose => cases h
  rw [State.printed, State.after, run_answer_setup h, hentries]
  cases hlevel : levelOf su.level with
  | error e =>
    have hnone : r.assigns? s = none := by
      simp [hassigns, Request.accepted?, h, hlevel, Except.toOption]
    have hmove := State.Move.deliver (s := s) hnone
    rw [hentries] at hmove
    rw [run_setUp_refused hlevel]
    exact ⟨rfl, hmove⟩
  | ok n =>
    rw [run_setUp_accepted hlevel]
    exact ⟨rfl, .fitOut su n h hlevel⟩

/-- What looking a channel up comes to. -/
theorem move_channel (name level : Value) (s : State) :
    s.printed (.channel name level) = []
      ∧ s.Move (.channel name level) (s.after (.channel name level)) := by
  have hrun : (answer (.channel name level)).run s
      = ⟨(((channel name level).run s).result.mapError .refused).map .channel,
          ((channel name level).run s).written, ((channel name level).run s).state⟩ :=
    Attempt.run_bind_pure _ _ s
  rw [State.printed, State.after, hrun]
  cases hname : channelName name with
  | error e =>
    have hassigns : Request.assigns? s (.channel name level) = none := by
      simp [Request.assigns?, hname, Except.toOption]
    rw [channel, Attempt.run_bind_error (by rw [Attempt.run_ofExcept, hname])]
    exact ⟨rfl, .deliver hassigns⟩
  | ok known =>
    obtain ⟨hwritten, hstate⟩ := run_channel hname level s
    rw [hwritten, hstate]
    refine ⟨rfl, ?_⟩
    cases hassigns : Request.assigns? s (.channel name level) with
    | none => exact .register known hassigns rfl
    | some assigned =>
      obtain ⟨l, -, rfl⟩ : ∃ l, (levelOf level).toOption = some l ∧ (known, l) = assigned := by
        by_cases hgiven : level.isTruthy = true
        · simpa [Request.assigns?, hname, hgiven, Except.toOption] using hassigns
        · simp [Request.assigns?, hgiven] at hassigns
      exact .assign known l hassigns rfl rfl

/-- What a request comes to, and what it writes. -/
theorem printed_and_move (s : State) (r : Request) :
    s.printed r = (s.deliverAll r.entries).1 ∧ s.Move r (s.after r) := by
  cases hsetup : r.setup? s with
  | some su => exact move_setup hsetup
  | none =>
    cases r with
    | setUp | setUpFrom => cases hsetup
    | setUpOnce env =>
      have hset : s.handlers ≠ [] := by
        intro hempty
        simp [Request.setup?, hempty] at hsetup
      have hassigns : Request.assigns? s (.setUpOnce env) = none := by
        simp [Request.assigns?, Request.accepted?, hsetup]
      rw [State.printed, State.after, run_answer_setUpOnce hset]
      exact ⟨rfl, .deliver hassigns⟩
    | channel name level => exact move_channel name level s
    | log name level message occasion =>
      obtain ⟨hwritten, hstate, -⟩ := run_log name level message occasion s
      rw [State.printed, State.after, answer, run_done]
      refine ⟨hwritten, ?_⟩
      rcases hstate with hstate | ⟨hentries, known, hstate⟩
      · exact hstate ▸ .deliver rfl
      · exact hstate ▸ .register known rfl hentries
    | compose requests occasions =>
      have hrun : (answer (.compose requests occasions)).run s
          = ⟨((compose requests occasions).run s).result.map .statement,
              ((compose requests occasions).run s).written,
              ((compose requests occasions).run s).state⟩ :=
        Attempt.run_bind_pure _ _ s
      rw [State.printed, State.after, hrun]
      exact ⟨rfl, .deliver rfl⟩

/-- **What a request writes to the console** is what its entries come to. -/
theorem printed_eq (s : State) (r : Request) : s.printed r = (s.deliverAll r.entries).1 :=
  (printed_and_move s r).1

/-- **Every request comes to one of four things.** -/
theorem move_after (s : State) (r : Request) : s.Move r (s.after r) := (printed_and_move s r).2

/-- **What each of the four keeps, every run keeps.** -/
theorem runAll_invariant {P : State → Prop} (hkeep : ∀ s r t, s.Move r t → P s → P t)
    (hs : P s) (rs : List Request) : P (s.runAll rs) := by
  induction rs generalizing s with
  | nil => exact hs
  | cons r rest ih => exact ih (hkeep s r _ (move_after s r) hs)

end SqlText.Log
