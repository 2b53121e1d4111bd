import SqlText.Proofs.Log.Outcome

/-!
# Handlers over a run

Only a setup changes the handlers, and only a setup whose level is accepted: then the handlers are
its outfit, all at that level. So after any run they are **an outfit at the level of the last setup
whose level was accepted** (`fitted_runAll`), whatever came of the files those setups asked for and
of all the other requests. Where the outfit has a log file, that is a file in the tree.
-/

namespace SqlText.Log

variable {s t : State} {r : Request} {su : Setup} {n level : Level}
variable {console : Option Bool} {path : Option Path}

/-! ## One request -/

@[simp] theorem handlers_setLevel (s : State) (name : String) (n : Level) :
    (s.setLevel name n).handlers = s.handlers := by
  unfold State.setLevel; split <;> rfl

@[simp] theorem files_setLevel (s : State) (name : String) (n : Level) :
    (s.setLevel name n).files = s.files := by
  unfold State.setLevel; split <;> rfl

@[simp] theorem unhandled_setLevel (s : State) (name : String) (n : Level) :
    (s.setLevel name n).unhandled = s.unhandled := by
  unfold State.setLevel; split <;> rfl

/-- **A request that carries out no setup** leaves the handlers in place. -/
theorem State.Move.handlers (h : s.Move r t) (hsetup : r.setup? s = none) :
    t.handlers = s.handlers := by
  cases h with
  | fitOut su n hsome hlevel => simp [hsetup] at hsome
  | deliver hassigns => exact State.handlers_deliverAll s r.entries
  | register name hassigns hentries => exact State.handlers_register s name
  | assign name n hassigns hnone hentries => simp

/-- Nor does it do more to the files than to deliver its entries. -/
theorem State.Move.files (h : s.Move r t) (hsetup : r.setup? s = none) :
    t.files = (s.deliverAll r.entries).2.files := by
  cases h with
  | fitOut su n hsome hlevel => simp [hsetup] at hsome
  | deliver hassigns => rfl
  | register name hassigns hentries => simp [hentries, State.deliverAll]
  | assign name n hassigns hnone hentries => simp [hentries, State.deliverAll]

/-- **What goes to the stream of errors** are the strays of the entries. -/
theorem State.Move.unhandled (h : s.Move r t) :
    t.unhandled = s.unhandled ++ s.strays r.entries := by
  cases h with
  | fitOut su n hsetup hlevel => simp [entries_of_setup hsetup, State.fitOut]
  | deliver hassigns => exact State.unhandled_deliverAll s r.entries
  | register name hassigns hentries => simp [hentries]
  | assign name n hassigns hsetup hentries => simp [hentries]

theorem after_of_refused (h : r.setup? s = some su) (hlevel : (levelOf su.level).toOption = none) :
    s.after r = s := by
  rw [State.after, run_answer_setup h]
  cases hresult : levelOf su.level with
  | error e => rw [run_setUp_refused hresult]
  | ok n => simp [hresult, Except.toOption] at hlevel

/-- A setup whose level is accepted puts its outfit in place. -/
theorem after_of_accepted (h : r.setup? s = some su)
    (hlevel : (levelOf su.level).toOption = some n) : s.after r = s.fitOut su n := by
  rw [State.after, run_answer_setup h]
  cases hresult : levelOf su.level with
  | error e => simp [hresult, Except.toOption] at hlevel
  | ok m =>
    obtain rfl : m = n := by simpa [hresult, Except.toOption] using hlevel
    rw [run_setUp_accepted hresult]

/-! ## Runs -/

/-- **A state is fitted** with an outfit: these are its handlers, and the log file is there. -/
structure State.Fitted (s : State) (console : Option Bool) (path : Option Path) (level : Level) :
    Prop where
  /-- The handlers. -/
  handlers : s.handlers = outfit console path level
  /-- The log file. -/
  file : ∀ p, path = some p → ∃ text, s.files.node? p = some (.file text)

theorem State.Fitted.mem_handlers_file (hs : s.Fitted console path level) {p : Path} :
    ⟨.file p, n⟩ ∈ s.handlers ↔ path = some p ∧ n = level := by
  rw [hs.handlers]
  cases console <;> cases path <;> simp [outfit, eq_comm]

theorem fitted_start (w : Surroundings) (level : Level) : (State.start w).Fitted none none level :=
  ⟨by simp [State.start, libraryChannels, outfit], fun _ h => by cases h⟩

theorem fitted_fitOut (s : State) (su : Setup) (n : Level) :
    (s.fitOut su n).Fitted su.console? (su.place s.files).2.toOption.join n :=
  ⟨rfl, fun _ hp => (place_ok (place_eq_ok hp)).2⟩

theorem fitted_after (h : r.setup? s = some su) (hlevel : (levelOf su.level).toOption = some n) :
    (s.after r).Fitted su.console? (su.place s.files).2.toOption.join n :=
  after_of_accepted h hlevel ▸ fitted_fitOut s su n

/-- Entries delivered leave a fitted state fitted. -/
theorem State.Fitted.deliverAll (hs : s.Fitted console path level) (es : List Spoken) :
    (s.deliverAll es).2.Fitted console path level := by
  refine ⟨by rw [State.handlers_deliverAll, hs.handlers], fun p hp => ?_⟩
  obtain ⟨text, htext⟩ := hs.file p hp
  rw [(State.deliverAll_outfit hs.handlers es).2, node?_log, htext]
  split
  · exact ⟨_, rfl⟩
  · exact ⟨_, rfl⟩

/-- So does every request but a setup whose level is accepted. -/
theorem State.Fitted.after_of_none (hs : s.Fitted console path level) (h : r.accepted? s = none) :
    (s.after r).Fitted console path level := by
  cases hsetup : r.setup? s with
  | some su =>
    rw [after_of_refused hsetup (by simpa [Request.accepted?, hsetup] using h)]
    exact hs
  | none =>
    have hmove := move_after s r
    refine ⟨(hmove.handlers hsetup).trans hs.handlers, ?_⟩
    rw [hmove.files hsetup]
    exact (hs.deliverAll r.entries).file

/-- The levels of the setups of a run that are accepted, in order. -/
def acceptedLevels (s : State) : List Request → List Level
  | [] => []
  | r :: rest => (r.accepted? s).toList ++ acceptedLevels (s.after r) rest

/-- **After any run the handlers are an outfit**, at the level of the last setup whose level was
accepted. Without one they are those of before. -/
theorem fitted_runAll (hs : s.Fitted console path level) (rs : List Request) :
    ∃ console' path',
      (s.runAll rs).Fitted console' path' ((acceptedLevels s rs).getLast?.getD level)
        ∧ (acceptedLevels s rs = [] → console' = console ∧ path' = path) := by
  induction rs generalizing s console path level with
  | nil => exact ⟨console, path, hs, fun _ => ⟨rfl, rfl⟩⟩
  | cons r rest ih =>
    show ∃ console' path',
      ((s.after r).runAll rest).Fitted console' path' _ ∧ _
    cases haccepted : r.accepted? s with
    | none =>
      have hlevels : acceptedLevels s (r :: rest) = acceptedLevels (s.after r) rest := by
        simp [acceptedLevels, haccepted]
      rw [hlevels]
      exact ih (hs.after_of_none haccepted)
    | some n =>
      have hlevels : acceptedLevels s (r :: rest) = n :: acceptedLevels (s.after r) rest := by
        simp [acceptedLevels, haccepted]
      obtain ⟨su, hsetup, hlevel⟩ := Option.bind_eq_some_iff.1 haccepted
      obtain ⟨console', path', hrest, -⟩ := ih (fitted_after hsetup hlevel)
      refine ⟨console', path', ?_, by simp [hlevels]⟩
      rwa [hlevels, List.getLast?_cons]

/-! ## What a request writes -/

/-- **What a request writes on a fitted state**: the console and the log file get the entries that
are written down. -/
theorem State.Fitted.written (hs : s.Fitted console path level) (r : Request) :
    s.printed r = consoleLines console (s.taken level r.entries)
      ∧ (r.setup? s = none →
          (s.after r).files = s.files.log path (s.taken level r.entries)) := by
  obtain ⟨hlines, hfiles⟩ := State.deliverAll_outfit hs.handlers r.entries
  exact ⟨(printed_eq s r).trans hlines, fun h => ((move_after s r).files h).trans hfiles⟩

end SqlText.Log
