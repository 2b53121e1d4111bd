import SqlText.Proofs.Log.Handlers
import SqlText.Proofs.Log.Reconfiguration

/-!
# Setting logging up once

Setting logging up unless it is set up already looks at nothing but the handlers: where there is
one, nothing is done. What is set up as an environment asks for always writes to the console, and
the console is in place before the log file is looked for, so **an accepted level leaves a
handler**, whatever comes of the file (`handlers_after_setUpOnce`). From then on there is always a
handler until a setup takes the last one away, and that can only be one that asks for no console
and gets no log file (`handlers_after_eq_nil_iff`).
-/

namespace SqlText.Log

variable {s : State} {r : Request} {su : Setup} {n : Level}

/-! ## The last handler -/

theorem outfit_eq_nil_iff {console : Option Bool} {path : Option Path} :
    outfit console path n = [] ↔ console = none ∧ path = none := by
  cases console <;> cases path <;> simp [outfit]

theorem handlers_fitOut_ne_nil (h : su.console = true) (s : State) (n : Level) :
    (s.fitOut su n).handlers ≠ [] := by
  intro hnil
  have hconsole := (outfit_eq_nil_iff.1 hnil).1
  simp [Setup.console?, h] at hconsole

/-- **A setup clears the root channel**: no handler is left behind it, since it asks for no console,
and for no log file or for one that cannot be placed. -/
structure State.ClearedBy (s : State) (su : Setup) : Prop where
  /-- No handler is left. -/
  handlers : (s.after (.setUp su)).handlers = []
  /-- No console is asked for. -/
  console : su.console = false
  /-- No log file is asked for, or the setup is refused for it. -/
  file : su.file.isTruthy = false
    ∨ ∃ e, e.isOfFile = true ∧ s.reply (.setUp su) = .error (.refused e)

theorem reply_of_accepted (h : r.setup? s = some su) (hlevel : levelOf su.level = .ok n) :
    s.reply r = ((su.place s.files).2.mapError .refused).map fun _ => .done := by
  rw [State.reply, run_answer_setup h, run_setUp_accepted hlevel]
  cases (su.place s.files).2 <;> rfl

/-- A setup whose level is accepted has no log file in place where it asks for none or is refused
for it, and only there. -/
theorem place_eq_none_iff (hlevel : levelOf su.level = .ok n) :
    (su.place s.files).2.toOption.join = none
      ↔ su.file.isTruthy = false
        ∨ ∃ e, e.isOfFile = true ∧ s.reply (.setUp su) = .error (.refused e) := by
  rw [reply_of_accepted rfl hlevel]
  cases hplace : (su.place s.files).2 with
  | error e => exact iff_of_true rfl (.inr ⟨e, isOfFile_of_place hplace, rfl⟩)
  | ok found =>
    obtain ⟨rfl, hfile⟩ := eq_logFile?_of_place hplace
    rw [← hfile]
    show su.logFile? = none ↔ _
    cases su.logFile? with
    | none => exact iff_of_true rfl (.inl rfl)
    | some path => simp [Except.map]

/-- **A setup whose level is accepted** leaves no handler if it asks for no console, and for no log
file or for one that cannot be placed, and only then. -/
theorem handlers_after_setUp_eq_nil_iff (hlevel : levelOf su.level = .ok n) :
    (s.after (.setUp su)).handlers = []
      ↔ su.console = false ∧ (su.file.isTruthy = false
        ∨ ∃ e, e.isOfFile = true ∧ s.reply (.setUp su) = .error (.refused e)) := by
  have hconsole : su.console? = none ↔ su.console = false := by simp [Setup.console?]
  rw [after_of_accepted rfl (by rw [hlevel]; rfl), ← place_eq_none_iff hlevel, ← hconsole]
  exact outfit_eq_nil_iff

/-- Where there is a handler, a setup is carried out because it was asked for, or it writes to the
console: what an environment asks for does. -/
theorem eq_setUp_or_console (hs : s.handlers ≠ []) (hsetup : r.setup? s = some su) :
    r = .setUp su ∨ su.console = true := by
  cases r with
  | setUp su' => exact .inl (congrArg Request.setUp (Option.some.inj hsetup))
  | setUpFrom env =>
    obtain rfl := Option.some.inj hsetup
    exact .inr rfl
  | setUpOnce env =>
    obtain ⟨hempty, -⟩ := Option.ite_none_right_eq_some.1 hsetup
    exact absurd hempty hs
  | channel | log | compose => cases hsetup

/-- **The last handler goes** with a setup that clears the root channel, and with nothing else. -/
theorem handlers_after_eq_nil_iff (hs : s.handlers ≠ []) :
    (s.after r).handlers = [] ↔ ∃ su, r = .setUp su ∧ s.ClearedBy su := by
  constructor
  · intro hnil
    cases hsetup : r.setup? s with
    | none => exact absurd ((move_after s r).handlers hsetup ▸ hnil) hs
    | some su =>
      cases hlevel : levelOf su.level with
      | error e =>
        rw [after_of_refused hsetup (by rw [hlevel]; rfl)] at hnil
        exact absurd hnil hs
      | ok n =>
        rcases eq_setUp_or_console hs hsetup with rfl | hconsole
        · obtain ⟨hconsole, hfile⟩ := (handlers_after_setUp_eq_nil_iff hlevel).1 hnil
          exact ⟨su, rfl, hnil, hconsole, hfile⟩
        · rw [after_of_accepted hsetup (by rw [hlevel]; rfl)] at hnil
          exact absurd hnil (handlers_fitOut_ne_nil hconsole s n)
  · rintro ⟨su, rfl, hcleared⟩
    exact hcleared.handlers

/-- **A handler stays** over a run until a setup clears the root channel. -/
theorem handlers_runAll (hs : s.handlers ≠ []) (rs : List Request) :
    (s.runAll rs).handlers ≠ []
      ∨ ∃ before su behind, rs = before ++ .setUp su :: behind
        ∧ (s.runAll before).ClearedBy su := by
  induction rs generalizing s with
  | nil => exact .inl hs
  | cons r rest ih =>
    by_cases hnil : (s.after r).handlers = []
    · obtain ⟨su, rfl, hcleared⟩ := (handlers_after_eq_nil_iff hs).1 hnil
      exact .inr ⟨[], su, rest, rfl, hcleared⟩
    · rcases ih hnil with hkept | ⟨before, su, behind, rfl, hcleared⟩
      · exact .inl hkept
      · exact .inr ⟨r :: before, su, behind, rfl, hcleared⟩

/-! ## Setting up once -/

theorem setup?_setUpOnce (hs : s.handlers = []) (env : Environment) :
    Request.setup? s (.setUpOnce env) = some (.ofSettings (.ofEnvironment env)) := if_pos hs

/-- **Setting up once where there is no handler** is refused for its level, with nothing changed, or
leaves a handler, even if it is refused for its log file. -/
theorem handlers_after_setUpOnce (hs : s.handlers = []) (env : Environment) :
    (∃ e, e.isOfLevel = true
        ∧ (answer (.setUpOnce env)).run s = ⟨.error (.refused e), [], s⟩)
      ∨ (s.after (.setUpOnce env)).handlers ≠ []
        ∧ ∀ f, s.reply (.setUpOnce env) = .error f → ∃ e, f = .refused e ∧ e.isOfFile = true := by
  have hsetup := setup?_setUpOnce hs env
  cases hlevel : levelOf (Setup.ofSettings (.ofEnvironment env)).level with
  | error e =>
    refine .inl ⟨e, isOfLevel_of_levelOf hlevel, ?_⟩
    rw [run_answer_setup hsetup, run_setUp_refused hlevel]
    rfl
  | ok n =>
    refine .inr ⟨?_, fun f hf => ?_⟩
    · rw [after_of_accepted hsetup (by rw [hlevel]; rfl)]
      exact handlers_fitOut_ne_nil rfl s n
    · rw [reply_of_accepted hsetup hlevel] at hf
      cases hplace : ((Setup.ofSettings (.ofEnvironment env)).place s.files).2 with
      | ok found =>
        rw [hplace] at hf
        cases hf
      | error e =>
        rw [hplace] at hf
        exact ⟨e, (Except.error.inj hf).symm, isOfFile_of_place hplace⟩

/-- **Setting up once happens once.** Where there is a handler it succeeds and changes nothing.
Where there is none it is refused for its level and changes nothing, or leaves a handler behind,
even if it is refused for its log file. So once it was not refused for its level, it succeeds and
changes nothing from then on, under whatever environment and whatever else is asked in between,
until a setup clears the root channel. -/
theorem setUpOnce_once (s : State) (env : Environment) :
    (s.handlers ≠ [] → (answer (.setUpOnce env)).run s = ⟨.ok .done, [], s⟩)
      ∧ (s.handlers = [] →
        (∃ e, e.isOfLevel = true
            ∧ (answer (.setUpOnce env)).run s = ⟨.error (.refused e), [], s⟩)
          ∨ (s.after (.setUpOnce env)).handlers ≠ []
            ∧ ∀ f, s.reply (.setUpOnce env) = .error f → ∃ e, f = .refused e ∧ e.isOfFile = true)
      ∧ ((∀ e, e.isOfLevel = true → s.reply (.setUpOnce env) ≠ .error (.refused e)) →
        ∀ rs : List Request,
          (∀ env', (answer (.setUpOnce env')).run ((s.after (.setUpOnce env)).runAll rs)
              = ⟨.ok .done, [], (s.after (.setUpOnce env)).runAll rs⟩)
            ∨ ∃ before su behind, rs = before ++ .setUp su :: behind
              ∧ ((s.after (.setUpOnce env)).runAll before).ClearedBy su) := by
  refine ⟨fun hs => run_answer_setUpOnce hs env, fun hs => handlers_after_setUpOnce hs env,
    fun hlevel rs => ?_⟩
  have hset : (s.after (.setUpOnce env)).handlers ≠ [] := by
    by_cases hs : s.handlers = []
    · rcases handlers_after_setUpOnce hs env with ⟨e, he, hrun⟩ | ⟨hset, -⟩
      · exact absurd (by rw [State.reply, hrun]) (hlevel e he)
      · exact hset
    · rw [State.after, run_answer_setUpOnce hs]
      exact hs
  rcases handlers_runAll hset rs with hkept | hcleared
  · exact .inl fun env' => run_answer_setUpOnce hkept env'
  · exact .inr hcleared

/-- The directory of the log file is a file. Setting up once is refused for it, and then done:
neither an entry nor a setup that is refused for its level makes room for another. -/
theorem setUpOnce_once_file_in_the_way :
    let s : State := { files := ⟨[(["logs"], .file "odd\n")]⟩ }
    let env : Environment := [("SQLBUILDER_LOG_LEVEL", "debug"), ("SQLBUILDER_LOG_FILE", "a.log")]
    let rs : List Request :=
      [.log (.text "db") (.int 20) (.text "odd") { time := 0 },
        .setUpFrom [("SQLBUILDER_LOG_LEVEL", "loud")]]
    s.handlers = [] ∧ s.reply (.setUpOnce env) = .error (.refused (.path .occupied))
      ∧ (s.after (.setUpOnce env)).handlers ≠ []
      ∧ ∀ env', (answer (.setUpOnce env')).run ((s.after (.setUpOnce env)).runAll rs)
        = ⟨.ok .done, [], (s.after (.setUpOnce env)).runAll rs⟩ := by
  have haccepted : levelOf (Setup.ofSettings (.ofEnvironment
      [("SQLBUILDER_LOG_LEVEL", "debug"), ("SQLBUILDER_LOG_FILE", "a.log")])).level = .ok 10 := rfl
  have hplace : ((Setup.ofSettings (.ofEnvironment
      [("SQLBUILDER_LOG_LEVEL", "debug"), ("SQLBUILDER_LOG_FILE", "a.log")])).place
      ⟨[(["logs"], .file "odd\n")]⟩).2 = .error (.path .occupied) := rfl
  intro s env rs
  have hempty : s.handlers = [] := rfl
  have hreply : s.reply (.setUpOnce env) = .error (.refused (.path .occupied)) := by
    rw [reply_of_accepted (setup?_setUpOnce hempty env) haccepted, hplace]
    rfl
  obtain ⟨-, honce, hagain⟩ := setUpOnce_once s env
  refine ⟨hempty, hreply, ?_, ?_⟩
  · rcases honce hempty with ⟨e, he, hrun⟩ | ⟨hset, -⟩
    · rw [State.reply, hrun] at hreply
      cases hreply
      cases he
    · exact hset
  · have hlevel : ∀ e : Refusal, e.isOfLevel = true →
        s.reply (.setUpOnce env) ≠ .error (.refused e) := by
      intro e he herror
      cases hreply.symm.trans herror
      cases he
    refine (hagain hlevel rs).resolve_right ?_
    rintro ⟨before, su, behind, heq, -⟩
    have hmem : Request.setUp su ∈ rs := heq ▸ List.mem_append_right _ List.mem_cons_self
    simp [rs] at hmem

end SqlText.Log
