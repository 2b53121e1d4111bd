import SqlText.Proofs.Log.Setup
import SqlText.Proofs.Log.Standing

/-!
# Setting logging up anew

A setup owes nothing to what was set up before it. There are three ways in which it ends, and each
leaves one state behind as far as the root channel is concerned: refused for its level, **it has
changed nothing**; refused for its log file, it has put in place what it would have put in place
without one; and gone through, it has put its own handlers in the place of all others. A setup that
went through can be carried out again, and **the second time changes nothing**, since the
directories and the file that it asks for are there (`setUp_outcomes`).
-/

namespace SqlText.Log

variable {su : Setup} {s : State} {t : FileTree} {directory : Path} {found : Option Path}
variable {n : Level} {e : Refusal}

/-! ## Refusals of a setup -/

/-- Whether something is refused for its level: no text, a name that nothing goes by, or one that
goes with no level. -/
def Refusal.isOfLevel : Refusal → Bool
  | .levelNotText _ | .noSuchName _ | .unknownLevel _ | .notLevel _ => true
  | _ => false

/-- Whether something is refused for its log file, or the directory of it. -/
def Refusal.isOfFile : Refusal → Bool
  | .directoryNotText _ | .fileNotText _ | .path _ => true
  | _ => false

theorem isOfLevel_of_levelOf {v : Value} (h : levelOf v = .error e) : e.isOfLevel = true := by
  unfold levelOf at h
  split at h
  · split at h <;> cases h <;> rfl
  · cases h
    rfl

theorem isOfFile_of_directoryPath (h : su.directoryPath = .error e) : e.isOfFile = true := by
  unfold Setup.directoryPath at h
  split at h
  · split at h
    · cases h
    · cases h
      rfl
  · cases h

theorem isOfFile_of_filePath {directory : Path} (h : su.filePath directory = .error e) :
    e.isOfFile = true := by
  unfold Setup.filePath at h
  split at h
  · cases h
  · cases h
    rfl

theorem isOfFile_of_placeIn (h : (su.placeIn directory t).2 = .error e) : e.isOfFile = true := by
  unfold Setup.placeIn at h
  split at h
  · next hpath =>
    cases h
    exact isOfFile_of_filePath hpath
  · split at h
    · cases h
      rfl
    · cases h

/-- A log file that is not placed is refused for itself or for its directory. -/
theorem isOfFile_of_place (h : (su.place t).2 = .error e) : e.isOfFile = true := by
  unfold Setup.place at h
  split at h
  · split at h
    · next hdirectory =>
      cases h
      exact isOfFile_of_directoryPath hdirectory
    · split at h
      · cases h
        rfl
      · exact isOfFile_of_placeIn h
  · cases h

/-! ## The log file once more -/

/-- The log file that was placed is the one that the setup names, and it names one if it asks for
one. -/
theorem eq_logFile?_of_place (h : (su.place t).2 = .ok found) :
    found = su.logFile? ∧ su.logFile?.isSome = su.file.isTruthy := by
  rcases place_cases h with ⟨hfile, rfl⟩ | ⟨path, rfl, hpath, -⟩
  · simp [Setup.logFile?, hfile]
  · refine ⟨hpath.symm, ?_⟩
    cases hfile : su.file.isTruthy with
    | false => simp [Setup.logFile?, hfile] at hpath
    | true => rw [hpath, Option.isSome_some]

/-- Opening the log file once more changes nothing. -/
theorem placeIn_again (h : (su.placeIn directory t).2 = .ok found) :
    su.placeIn directory (su.placeIn directory t).1 = su.placeIn directory t := by
  unfold Setup.placeIn at h ⊢
  cases hpath : su.filePath directory with
  | error e => simp only
  | ok path =>
    simp only [hpath] at h ⊢
    cases hopen : t.openFile path with
    | error e =>
      rw [hopen] at h
      cases h
    | ok opened => simp only [FileTree.openFile_again hopen]

/-- **A log file that was placed** is placed again where it is. -/
theorem place_again (h : (su.place t).2 = .ok found) :
    su.place (su.place t).1 = su.place t := by
  unfold Setup.place at h ⊢
  by_cases hfile : su.file.isTruthy = true
  · simp only [if_pos hfile] at h ⊢
    cases hdirectory : su.directoryPath with
    | error e => simp only
    | ok directory =>
      simp only [hdirectory] at h ⊢
      cases hmade : t.makeDirectories directory with
      | mk made result =>
        rw [hmade] at h
        cases result with
        | error e => cases h
        | ok _ =>
          have hextends := extends_placeIn su directory made
          simp only [FileTree.makeDirectories_again hmade hextends]
          exact placeIn_again h
  · simp only [if_neg hfile]

/-- **An outfit that was put in place** is put in place again without a change. -/
theorem fitOut_again (h : (su.place s.files).2 = .ok found) (n : Level) :
    (s.fitOut su n).fitOut su n = s.fitOut su n := by
  show State.fitOut { s.fitOut su n with files := (su.place s.files).1 } su n = _
  simp only [State.fitOut, place_again h]

/-! ## Three ways to end -/

/-- **A setup without a log file** goes through where its level is accepted. -/
theorem run_setUp_unfiled (h : levelOf su.level = .ok n) (s : State) :
    (setUp { su with file := .null }).run s
      = ⟨.ok (), [], { s with
          rootLevel := n, decided := [], handlers := outfit su.console? none n }⟩ :=
  @run_setUp_accepted { su with file := .null } n h s

theorem outfit_console (su : Setup) (path : Option Path) (n : Level) :
    outfit su.console? path n
      = (if su.console then [⟨.console su.colors, n⟩] else [])
        ++ (path.map fun p => ⟨.file p, n⟩).toList := by
  unfold outfit Setup.console?
  cases su.console <;> rfl

/-- **What the handlers of a setup write**: the console in the colored format if colors are asked
for, and everything else in the plain one. -/
theorem formatter_of_mem_outfit {path : Option Path} {h : Handler}
    (hmem : h ∈ outfit su.console? path n) :
    h.target.formatter
      = if h.target.file? = none ∧ su.colors = true then ⟨true, coloredFormat⟩
        else ⟨false, plainFormat⟩ := by
  rw [outfit_console] at hmem
  rcases List.mem_append.1 hmem with hmem | hmem
  · split at hmem
    · obtain rfl := List.mem_singleton.1 hmem
      cases su.colors <;> rfl
    · cases hmem
  · obtain ⟨p, -, rfl⟩ := Option.map_eq_some_iff.1 (Option.mem_toList.1 hmem)
    rfl

/-- **A setup ends in one of three ways.** Refused for its level, it leaves everything as it was.
With a level that is accepted it may still be refused for its log file or the directory of it, and
then the root channel has the level and the handlers that the same setup gives it without a log
file. And where it goes through, the level of the root channel is the one looked up, and the
handlers are those of the setup alone, all of them at that level: a console if one is asked for,
and behind it a file if one is named. What is written to the console is colored and marked if
colors are asked for. Carried out once more it goes through and changes nothing. -/
theorem setUp_outcomes (su : Setup) (s : State) :
    let o := (setUp su).run s
    let unfiled := (setUp { su with file := .null }).run s
    (∀ e, levelOf su.level = .error e →
        e.isOfLevel = true ∧ o.result = .error e ∧ o.state = s)
      ∧ ∀ n, levelOf su.level = .ok n →
        (∀ e, o.result = .error e →
            e.isOfFile = true ∧ unfiled.result = .ok ()
              ∧ o.state.rootLevel = unfiled.state.rootLevel
              ∧ o.state.handlers = unfiled.state.handlers)
          ∧ (o.result = .ok () →
            o.state.rootLevel = n
              ∧ o.state.handlers
                  = (if su.console then [⟨.console su.colors, n⟩] else [])
                    ++ (su.logFile?.map fun p => ⟨.file p, n⟩).toList
              ∧ su.logFile?.isSome = su.file.isTruthy
              ∧ (∀ h ∈ o.state.handlers, h.target.formatter
                  = if h.target.file? = none ∧ su.colors = true then ⟨true, coloredFormat⟩
                    else ⟨false, plainFormat⟩)
              ∧ (setUp su).run o.state = ⟨.ok (), [], o.state⟩) := by
  intro o unfiled
  refine ⟨fun e hlevel => ?_, fun n hlevel => ?_⟩
  · have ho : o = ⟨.error e, [], s⟩ := run_setUp_refused hlevel s
    rw [ho]
    exact ⟨isOfLevel_of_levelOf hlevel, rfl, rfl⟩
  · have ho : o = ⟨(su.place s.files).2.map fun _ => (), [], s.fitOut su n⟩ :=
      run_setUp_accepted hlevel s
    have hunfiled : unfiled = _ := run_setUp_unfiled hlevel s
    rw [ho, hunfiled]
    cases hplace : (su.place s.files).2 with
    | error e =>
      refine ⟨fun e' he => ?_, fun hdone => by cases hdone⟩
      obtain rfl : e = e' := Except.error.inj he
      refine ⟨isOfFile_of_place hplace, rfl, rfl, ?_⟩
      simp only [State.fitOut, hplace]
      rfl
    | ok found =>
      obtain ⟨rfl, hfile⟩ := eq_logFile?_of_place hplace
      have hhandlers : (s.fitOut su n).handlers = outfit su.console? su.logFile? n := by
        simp only [State.fitOut, hplace]
        rfl
      refine ⟨fun e' he => (by cases he), fun _ => ⟨rfl, ?_, hfile, fun h hmem => ?_, ?_⟩⟩
      · exact hhandlers.trans (outfit_console su _ n)
      · exact formatter_of_mem_outfit (hhandlers ▸ hmem)
      · rw [run_setUp_accepted hlevel, fitOut_again hplace]
        show Outcome.mk ((su.place (su.place s.files).1).2.map fun _ => ()) [] _ = _
        rw [place_again hplace, hplace]
        rfl

/-- A file stands where the directory should be made: the console is in place, and the file that was
written to before is not written to any more. -/
theorem setUp_outcomes_file_in_the_way :
    let s : State :=
      { handlers := [⟨.console true, 10⟩, ⟨.file ["logs", "a.log"], 10⟩]
        files := ⟨[(["logs"], .directory), (["logs", "a.log"], .file "odd\n")]⟩ }
    let su : Setup :=
      { level := .text "error", file := .text "b.log", directory := .text "logs/a.log",
        colors := false }
    let o := (setUp su).run s
    o.result = .error (.path .occupied) ∧ o.state.rootLevel = 40
      ∧ o.state.handlers = [⟨.console false, 40⟩] := by
  intro s su o
  have hlevel : levelOf su.level = .ok 40 := rfl
  have he : o.result = .error (.path .occupied) := rfl
  obtain ⟨-, -, hroot, hhandlers⟩ := ((setUp_outcomes su s).2 40 hlevel).1 _ he
  exact ⟨he, hroot.trans rfl, hhandlers.trans rfl⟩

end SqlText.Log
