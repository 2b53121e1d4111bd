import SqlText.Log.Request
import SqlText.Proofs.Log.Delivery

/-!
# What a setup comes to

A setup whose level is refused changes nothing. One whose level is accepted **replaces the handlers
whatever comes of its file**: the log file is placed last (`Setup.place`), and where that fails the
level and the console stand (`run_setUp_accepted`). Placing a log file puts directories and empty
files into the tree and takes nothing away (`extends_place`).
-/

namespace SqlText.Log

variable {su : Setup} {n : Level} {t : FileTree} {path : Path}

/-! ## Placing the log file -/

/-- What comes of opening the log file of a setup once its directory is made: the files after it,
and the path of the log file or why there is none. -/
def Setup.placeIn (su : Setup) (directory : Path) (t : FileTree) :
    FileTree × Except Refusal (Option Path) :=
  match su.filePath directory with
  | .error e => (t, .error e)
  | .ok path =>
    match t.openFile path with
    | .error e => (t, .error (.path e))
    | .ok t' => (t', .ok (some path))

/-- What comes of putting the log file of a setup in place: the files after it, and the path of the
log file, if one is asked for, or why there is none. -/
def Setup.place (su : Setup) (t : FileTree) : FileTree × Except Refusal (Option Path) :=
  if su.file.isTruthy then
    match su.directoryPath with
    | .error e => (t, .error e)
    | .ok directory =>
      match t.makeDirectories directory with
      | (made, .error e) => (made, .error (.path e))
      | (made, .ok _) => su.placeIn directory made
  else (t, .ok none)

/-- The log file that a setup names, if it names one. -/
def Setup.logFile? (su : Setup) : Option Path :=
  if su.file.isTruthy then
    su.directoryPath.toOption.bind fun directory => (su.filePath directory).toOption
  else none

/-- Where a setup writes to a console, and whether that is colored. -/
def Setup.console? (su : Setup) : Option Bool := if su.console then some su.colors else none

/-- A state with the log file that was placed, and a handler for it behind those that are there. -/
def State.withFile (s : State) (placed : FileTree × Except Refusal (Option Path)) (n : Level) :
    State :=
  { s with
    handlers := s.handlers ++ (placed.2.toOption.join.map fun p => ⟨.file p, n⟩).toList
    files := placed.1 }

/-- The state after a setup whose level is accepted. -/
def State.fitOut (s : State) (su : Setup) (level : Level) : State :=
  { s with
    rootLevel := level
    decided := []
    handlers := outfit su.console? (su.place s.files).2.toOption.join level
    files := (su.place s.files).1 }

/-- Opening the log file extends the tree of files, opened or not. -/
theorem extends_placeIn (su : Setup) (directory : Path) (t : FileTree) :
    t.Extends (su.placeIn directory t).1 := by
  unfold Setup.placeIn
  split
  · exact .refl t
  · split
    · exact .refl t
    · next hopen => exact FileTree.extends_openFile hopen

/-- **Placing a log file extends the tree of files**, placed or not. -/
theorem extends_place (su : Setup) (t : FileTree) : t.Extends (su.place t).1 := by
  unfold Setup.place
  split
  · split
    · exact .refl t
    · next directory _ =>
      have hmade := t.extends_makeDirectories directory
      split
      · next made _ heq => rwa [heq] at hmade
      · next made _ heq =>
        rw [heq] at hmade
        exact hmade.trans (extends_placeIn su directory made)
  · exact .refl t

/-- **Where placing a log file goes through**, none is asked for, or the one that is named is in
place. -/
theorem place_cases {found : Option Path} (h : (su.place t).2 = .ok found) :
    su.file.isTruthy = false ∧ found = none
      ∨ ∃ path, found = some path ∧ su.logFile? = some path
        ∧ ∃ text, (su.place t).1.node? path = some (.file text) := by
  unfold Setup.place at h ⊢
  unfold Setup.logFile?
  split at h
  · next hfile =>
    refine .inr ?_
    simp only [hfile, if_true]
    split at h
    · cases h
    · next directory hdirectory =>
      split at h
      · cases h
      · next made _ hmade =>
        unfold Setup.placeIn at h
        split at h
        · cases h
        · next path hpath =>
          split at h
          · cases h
          · next t' hopen =>
            refine ⟨path, (Except.ok.inj h).symm, by simp [hdirectory, Except.toOption, hpath], ?_⟩
            simp only [Setup.placeIn, hpath, hopen]
            exact FileTree.node?_openFile hopen
  · next hfile => exact .inl ⟨Bool.eq_false_iff.2 hfile, (Except.ok.inj h).symm⟩

theorem place_ok (h : (su.place t).2 = .ok (some path)) :
    su.logFile? = some path ∧ ∃ text, (su.place t).1.node? path = some (.file text) := by
  rcases place_cases h with ⟨-, hnone⟩ | ⟨_, heq, hplaced⟩
  · cases hnone
  · obtain rfl := Option.some.inj heq
    exact hplaced

theorem exists_place (hfile : su.file.isTruthy = true) {found : Option Path}
    (h : (su.place t).2 = .ok found) : ∃ path, found = some path := by
  rcases place_cases h with ⟨hnone, -⟩ | ⟨path, heq, -⟩
  · cases hfile.symm.trans hnone
  · exact ⟨path, heq⟩

theorem place_eq_ok (h : (su.place t).2.toOption.join = some path) :
    (su.place t).2 = .ok (some path) := by
  cases hresult : (su.place t).2 with
  | error e => simp [hresult, Except.toOption] at h
  | ok found => simpa [hresult, Except.toOption] using h

/-! ## Carrying a setup out -/

/-- Making directories. -/
theorem run_makeDirectories (path : Path) (s : State) :
    (makeDirectories path).run s
      = ⟨(s.files.makeDirectories path).2.mapError .path, [],
          { s with files := (s.files.makeDirectories path).1 }⟩ := by
  rw [makeDirectories, Attempt.run_bind_ok (Attempt.run_state s), Outcome.after_nil,
    Attempt.run_bind_ok (Attempt.run_update _ s), Outcome.after_nil]
  cases (s.files.makeDirectories path).2 <;> rfl

/-- Opening a file. -/
theorem run_openFile (path : Path) (s : State) :
    (openFile path).run s
      = match s.files.openFile path with
        | .ok files => ⟨.ok (), [], { s with files := files }⟩
        | .error e => ⟨.error (.path e), [], s⟩ := by
  rw [openFile, Attempt.run_bind_ok (Attempt.run_state s), Outcome.after_nil]
  cases s.files.openFile path <;> rfl

/-- The log file of a setup is opened, and a handler for it put behind those that are there. -/
theorem run_placeIn (su : Setup) (directory : Path) (made : FileTree) (n : Level) (s : State) :
    (do
        let path ← Attempt.ofExcept (su.filePath directory)
        openFile path
        addHandler ⟨.file path, n⟩ : Step Unit).run { s with files := made }
      = ⟨(su.placeIn directory made).2.map fun _ => (), [],
          s.withFile (su.placeIn directory made) n⟩ := by
  unfold Setup.placeIn
  cases hpath : su.filePath directory with
  | error e =>
    rw [Attempt.run_bind_error (Attempt.run_ofExcept _ _)]
    simp [State.withFile, Except.map, Except.toOption]
  | ok path =>
    rw [Attempt.run_bind_ok (Attempt.run_ofExcept _ _), Outcome.after_nil]
    have hopen := run_openFile path { s with files := made }
    cases hfile : made.openFile path with
    | error e =>
      simp only [hfile] at hopen
      rw [Attempt.run_bind_error hopen]
      simp [State.withFile, hfile, Except.map, Except.toOption]
    | ok files =>
      simp only [hfile] at hopen
      rw [Attempt.run_bind_ok hopen]
      simp only [hfile]
      rfl

/-- The log file of a setup is placed behind the handlers that are there. -/
theorem run_addFile (h : su.file.isTruthy = true) (n : Level) (s : State) :
    (addFile su n).run s
      = ⟨(su.place s.files).2.map fun _ => (), [], s.withFile (su.place s.files) n⟩ := by
  unfold addFile Setup.place
  rw [if_pos h]
  cases hdirectory : su.directoryPath with
  | error e =>
    rw [Attempt.run_bind_error (Attempt.run_ofExcept _ _)]
    simp [State.withFile, Except.map, Except.toOption]
  | ok directory =>
    rw [Attempt.run_bind_ok (Attempt.run_ofExcept _ _), Outcome.after_nil]
    have hmake := run_makeDirectories directory s
    cases hmade : s.files.makeDirectories directory with
    | mk made result =>
      rw [hmade] at hmake
      cases result with
      | error e =>
        rw [Attempt.run_bind_error hmake]
        simp [State.withFile, hmade, Except.map, Except.toOption]
      | ok _ =>
        simp only [hmade]
        rw [Attempt.run_bind_ok hmake, Outcome.after_nil]
        exact run_placeIn su directory made n s

/-- So it is where the setup may name none. -/
theorem run_addFile_if (su : Setup) (n : Level) (s : State) :
    (if su.file.isTruthy then addFile su n else pure () : Step Unit).run s
      = ⟨(su.place s.files).2.map fun _ => (), [], s.withFile (su.place s.files) n⟩ := by
  by_cases h : su.file.isTruthy = true
  · rw [if_pos h, run_addFile h]
  · rw [if_neg h]
    simp [State.withFile, Setup.place, h, Except.map, Except.toOption]

theorem run_setUp_refused {e : Refusal} (h : levelOf su.level = .error e) (s : State) :
    (setUp su).run s = ⟨.error e, [], s⟩ := by
  have hlevel : (Attempt.ofExcept (levelOf su.level) : Step Level).run s = ⟨.error e, [], s⟩ := by
    rw [Attempt.run_ofExcept, h]
  rw [setUp, Attempt.run_bind_error hlevel]

/-- **A setup whose level is accepted** puts its outfit in place, and its result is that of placing
the log file. -/
theorem run_setUp_accepted (h : levelOf su.level = .ok n) (s : State) :
    (setUp su).run s = ⟨(su.place s.files).2.map fun _ => (), [], s.fitOut su n⟩ := by
  have hlevel : (Attempt.ofExcept (levelOf su.level) : Step Level).run s = ⟨.ok n, [], s⟩ := by
    rw [Attempt.run_ofExcept, h]
  have hroot : s.setLevel rootName n = { s with rootLevel := n, decided := [] } := by
    simp [State.setLevel, isRoot]
  rw [setUp, Attempt.run_bind_ok hlevel, Outcome.after_nil,
    Attempt.run_bind_ok (Attempt.run_update _ s), Outcome.after_nil, hroot]
  unfold State.fitOut Setup.console? outfit
  cases su.console with
  | false =>
    simp only [Bool.false_eq_true, if_false]
    rw [run_addFile_if]
    rfl
  | true =>
    simp only [if_true]
    rw [addHandler, Attempt.run_bind_ok (Attempt.run_update _ _), run_addFile_if]
    rfl

end SqlText.Log
