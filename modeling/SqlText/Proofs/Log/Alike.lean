import SqlText.Log.Request
import SqlText.Proofs.Settings

/-!
# Logging under alike environments

The word for the level is put into upper case twice, where settings are read and where the level is
looked up, and an empty directory is replaced only where the log file is placed. Between the two
nothing looks at either, so **alike environments ask for one and the same setup**, refused or not
(`Request.Alike.answer_eq`). Requests under alike environments can then stand for each other in any
run: every one of them ends as the other, writes the same and leaves the same state behind
(`outcomes_alike`).
-/

namespace SqlText.Log

variable {su su' : Setup} {env env' : Environment} {r r' : Request}

/-! ## Setups -/

/-- **Setups that agree** on the level they look up, on the log file, on the directory they take and
on the console are the same. -/
theorem setUp_congr (hlevel : levelOf su.level = levelOf su'.level) (hfile : su.file = su'.file)
    (hdirectory : su.directoryPath = su'.directoryPath) (hconsole : su.console = su'.console)
    (hcolors : su.colors = su'.colors) : setUp su = setUp su' := by
  have hpath : ∀ directory, su.filePath directory = su'.filePath directory := by
    intro directory
    rw [Setup.filePath, hfile, Setup.filePath]
  have hadd : ∀ level, addFile su level = addFile su' level := by
    intro level
    simp only [addFile, hdirectory, hpath]
  simp only [setUp, hlevel, hfile, hconsole, hcolors, hadd]

theorem directoryPath_congr (h : su.directory = su'.directory) :
    su.directoryPath = su'.directoryPath := by
  rw [Setup.directoryPath, h, Setup.directoryPath]

theorem directoryPath_usual {settings : Settings} (h : settings.directory ∈ ["", "logs"]) :
    (Setup.ofSettings settings).directoryPath = .ok (Path.ofText usualDirectory) := by
  simp only [List.mem_cons, List.not_mem_nil, or_false] at h
  rcases h with h | h <;> simp only [Setup.ofSettings, Setup.directoryPath, h] <;> rfl

/-- **Alike environments ask for the same setup.** -/
theorem setUp_alike (h : Environment.Alike env env') :
    setUp (.ofSettings (.ofEnvironment env)) = setUp (.ofSettings (.ofEnvironment env')) := by
  obtain ⟨hlevel, hfile, hcolors, hdirectory⟩ := h.settings
  refine setUp_congr ?_ ?_ ?_ rfl ?_
  · simp only [Setup.ofSettings, hlevel]
  · simp only [Setup.ofSettings, hfile]
  · rcases hdirectory with hsame | ⟨husual, husual'⟩
    · exact directoryPath_congr (congrArg Value.text hsame)
    · rw [directoryPath_usual husual, directoryPath_usual husual']
  · simp only [Setup.ofSettings, hcolors]

/-! ## Requests -/

/-- Two requests are **alike** where they are the same but for environments that are alike. -/
inductive Request.Alike : Request → Request → Prop where
  /-- The same request. -/
  | same (r : Request) : Alike r r
  /-- Setups under alike environments. -/
  | setUpFrom {env env' : Environment} (h : Environment.Alike env env') :
    Alike (.setUpFrom env) (.setUpFrom env')
  /-- The same, unless logging is set up already. -/
  | setUpOnce {env env' : Environment} (h : Environment.Alike env env') :
    Alike (.setUpOnce env) (.setUpOnce env')

/-- **Alike requests are answered alike**, in whatever state. -/
theorem Request.Alike.answer_eq (h : r.Alike r') : answer r = answer r' := by
  cases h with
  | same r => rfl
  | setUpFrom h => rw [answer, answer, setUp_alike h]
  | setUpOnce h => rw [answer, answer, Log.setUpOnce, Log.setUpOnce, setUp_alike h]

/-! ## Runs -/

/-- What comes of the requests of a run, in order: the answer to each, what it wrote to the console,
and the state it left behind. -/
def State.outcomes (s : State) : List Request → List (Outcome String State Failure Reply)
  | [] => []
  | r :: rest => (answer r).run s :: (s.after r).outcomes rest

/-- **A run under other environments that are alike** is the same run: each request is done or fails
as it does there, with the same to say, writes the same, and leaves the same levels, handlers, files
and directories behind. -/
theorem outcomes_alike {rs rs' : List Request} (h : List.Forall₂ Request.Alike rs rs') (s : State) :
    s.outcomes rs = s.outcomes rs' := by
  induction h generalizing s with
  | nil => rfl
  | cons hr _ ih =>
    rw [State.outcomes, State.outcomes, State.after, State.after, hr.answer_eq, ih]

/-- An environment that says nothing and one that says the same, and a level that is refused under
either of its spellings. -/
theorem outcomes_alike_defaults :
    let s : State := { handlers := [⟨.file ["logs", "a.log"], 10⟩] }
    let env : Environment :=
      [("SQLBUILDER_LOG_LEVEL", "info"), ("SQLBUILDER_LOG_FILE", ""), ("SQLBUILDER_LOG_DIR", ""),
        ("SQLBUILDER_LOG_COLORS", " \tTRUE\n")]
    let entry : Request := .log (.text "db") (.int 20) (.text "odd") { time := 0 }
    let loud : Environment := [("SQLBUILDER_LOG_LEVEL", "loud"), ("SQLBUILDER_LOG_DIR", "logs")]
    let loud' : Environment := [("SQLBUILDER_LOG_LEVEL", "LOUD")]
    List.Forall₂ Request.Alike [.setUpFrom [], entry, .setUpFrom loud]
        [.setUpFrom env, entry, .setUpFrom loud']
      ∧ s.outcomes [.setUpFrom [], entry, .setUpFrom loud]
        = s.outcomes [.setUpFrom env, entry, .setUpFrom loud'] := by
  have hbare : Text.Padded "true".toList "true".toList := ⟨[], [], by simp, by simp, rfl⟩
  have hpadded : Text.Padded "TRUE".toList " \tTRUE\n".toList :=
    ⟨[' ', '\t'], ['\n'], List.all_eq_true.1 rfl, List.all_eq_true.1 rfl, rfl⟩
  have hdefaults : Environment.Alike []
      [("SQLBUILDER_LOG_LEVEL", "info"), ("SQLBUILDER_LOG_FILE", ""), ("SQLBUILDER_LOG_DIR", ""),
        ("SQLBUILDER_LOG_COLORS", " \tTRUE\n")] :=
    { level := by decide
      file := .inr (by decide)
      directory := .inr (by decide)
      colors := ⟨_, _, hbare, hpadded, by decide⟩ }
  have hloud : Environment.Alike
      [("SQLBUILDER_LOG_LEVEL", "loud"), ("SQLBUILDER_LOG_DIR", "logs")]
      [("SQLBUILDER_LOG_LEVEL", "LOUD")] :=
    { level := by decide
      file := .inl rfl
      directory := .inr (by decide)
      colors := ⟨_, _, hbare, hbare, rfl⟩ }
  intro s env entry loud loud'
  have hruns : List.Forall₂ Request.Alike [.setUpFrom [], entry, .setUpFrom loud]
      [.setUpFrom env, entry, .setUpFrom loud'] :=
    .cons (.setUpFrom hdefaults) (.cons (.same entry) (.cons (.setUpFrom hloud) .nil))
  exact ⟨hruns, outcomes_alike hruns s⟩

end SqlText.Log
