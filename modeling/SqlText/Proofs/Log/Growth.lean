import SqlText.Proofs.Log.Handlers

/-!
# Log files only grow

Nothing that logging does to the files takes anything away: over a run, whatever stands at a path
stays there, and **a text is only ever added to at its end** (`grows_runAll`). What adds to it are
entries. A request that sets nothing up adds to the one file that a handler writes to, and adds just
the lines of the entries that are written down; a setup adds to none, also where it opens a file
that is there already or fails on the way. A file that no handler writes to is left alone until a
setup names it. `files_only_grow` says all this of every run.
-/

namespace SqlText.Log

variable {s : State} {r : Request} {t t' t'' : FileTree} {p q : Path} {level n : Level}
variable {su : Setup} {console : Option Bool} {path : Option Path} {text : String}

/-! ## Growing trees -/

/-- A tree **grows** into another one: what stands at a path stays there, and a file has perhaps
more text at its end. -/
def FileTree.Grows (t t' : FileTree) : Prop :=
  ∀ q n, t.node? q = some n → ∃ more, t'.node? q = some (Node.add more n)

theorem FileTree.Grows.refl (t : FileTree) : t.Grows t :=
  fun q n h => ⟨"", by rw [Node.add_empty]; exact h⟩

theorem FileTree.Grows.trans (h : t.Grows t') (h' : t'.Grows t'') : t.Grows t'' := by
  intro q n hn
  obtain ⟨more, hmore⟩ := h q n hn
  obtain ⟨more', hmore'⟩ := h' q _ hmore
  exact ⟨more ++ more', by rw [hmore', Node.add_add]⟩

theorem FileTree.Extends.grows (h : t.Extends t') : t.Grows t' :=
  fun q n hn => ⟨"", by rw [Node.add_empty]; exact h.node? hn⟩

/-- Entries make the tree of files grow. -/
theorem grows_log (t : FileTree) (path : Option Path) (es : List Spoken) :
    t.Grows (t.log path es) := by
  intro q n hn
  rw [node?_log, hn]
  split
  · exact ⟨_, rfl⟩
  · exact ⟨"", by rw [Node.add_empty]; rfl⟩

/-! ## One request -/

theorem extends_after (h : r.setup? s = some su) : s.files.Extends (s.after r).files := by
  cases hlevel : (levelOf su.level).toOption with
  | none => rw [after_of_refused h hlevel]; exact .refl _
  | some n => rw [after_of_accepted h hlevel]; exact extends_place su s.files

/-- **Every request makes the tree of files grow.** -/
theorem State.Fitted.grows_after (hs : s.Fitted console path level) (r : Request) :
    s.files.Grows (s.after r).files := by
  cases hsetup : r.setup? s with
  | none => rw [(hs.written r).2 hsetup]; exact grows_log _ _ _
  | some su => exact (extends_after hsetup).grows

/-- What a request that sets nothing up does to the file that a handler writes to, and to the
others. -/
theorem State.Fitted.node?_after (hs : s.Fitted console (some p) level) (h : r.setup? s = none) :
    ∃ text, s.files.node? p = some (.file text)
      ∧ (s.after r).files.node? p
          = some (.file (text ++ String.join ((s.taken level r.entries).map fileLine)))
      ∧ ∀ q, q ≠ p → (s.after r).files.node? q = s.files.node? q := by
  obtain ⟨text, htext⟩ := hs.file p rfl
  refine ⟨text, htext, ?_, fun q hq => ?_⟩
  · rw [(hs.written r).2 h, node?_log, if_pos rfl, htext]
    rfl
  · rw [(hs.written r).2 h, node?_log, if_neg (mt Option.some.inj hq)]

/-- **A file that no handler writes to** is left alone by a request whose setup does not name it,
and no handler writes to it then. -/
theorem State.Fitted.after_of_unwatched (hs : s.Fitted console path level) (hpath : path ≠ some q)
    (hname : r.logFile? s ≠ some q) (htext : s.files.node? q = some (.file text)) :
    (s.after r).files.node? q = some (.file text)
      ∧ ∃ console' path' level', (s.after r).Fitted console' path' level' ∧ path' ≠ some q := by
  cases haccepted : r.accepted? s with
  | some n =>
    obtain ⟨su, hsetup, hlevel⟩ := Option.bind_eq_some_iff.1 haccepted
    refine ⟨(extends_after hsetup).node? htext, _, _, n, fitted_after hsetup hlevel,
      fun hp => hname ?_⟩
    rw [Request.logFile?, hsetup]
    exact (place_ok (place_eq_ok hp)).1
  | none =>
    refine ⟨?_, console, path, level, hs.after_of_none haccepted, hpath⟩
    cases hsetup : r.setup? s with
    | some su => exact (extends_after hsetup).node? htext
    | none => rw [(hs.written r).2 hsetup, node?_log, if_neg hpath.symm, htext]

/-! ## Runs -/

/-- **Every run makes the tree of files grow.** -/
theorem State.Fitted.grows_runAll (hs : s.Fitted console path level) (rs : List Request) :
    s.files.Grows (s.runAll rs).files := by
  induction rs generalizing s console path level with
  | nil => exact .refl _
  | cons r rest ih =>
    obtain ⟨console', path', hfitted, -⟩ := fitted_runAll hs [r]
    exact (hs.grows_after r).trans (ih hfitted)

/-- A file that no handler writes to is left alone by a run until a setup names it. -/
theorem State.Fitted.runAll_of_unwatched (hs : s.Fitted console path level)
    (hpath : path ≠ some q) (htext : s.files.node? q = some (.file text)) {rs : List Request}
    (hname : ∀ before r after, rs = before ++ r :: after → r.logFile? (s.runAll before) ≠ some q) :
    (s.runAll rs).files.node? q = some (.file text) := by
  induction rs generalizing s console path level with
  | nil => exact htext
  | cons r rest ih =>
    obtain ⟨htext', console', path', level', hfitted, hpath'⟩ :=
      hs.after_of_unwatched hpath (hname [] r rest rfl) htext
    exact ih hfitted hpath' htext' fun before r' after hrest =>
      hname (r :: before) r' after (by rw [hrest]; rfl)

/-- **Log files only grow.** After any run, from whatever channels and files it starts, and over any
further one, whatever stands at a path stays
there, and a text only gets longer at its end. A request that sets nothing up adds to the file that
a handler writes to, if there is one, the lines of the entries that are written down, and changes
nothing else. A setup changes nothing that is there, and what files are new have no text. A file
that no handler writes to is left as it is until a setup names it. -/
theorem files_only_grow (w : Surroundings) (rs : List Request) :
    let s := (State.start w).runAll rs
    (∀ rs', s.files.Grows (s.runAll rs').files)
      ∧ (∀ r, r.setup? s = none →
          (∀ p l, ⟨.file p, l⟩ ∈ s.handlers →
            ∃ text, s.files.node? p = some (.file text)
              ∧ (s.after r).files.node? p
                  = some (.file (text ++ String.join ((s.taken l r.entries).map fileLine)))
              ∧ ∀ q, q ≠ p → (s.after r).files.node? q = s.files.node? q)
            ∧ ((∀ p l, ⟨.file p, l⟩ ∉ s.handlers) → (s.after r).files = s.files))
      ∧ (∀ r, r.setup? s ≠ none →
          (∀ q n, s.files.node? q = some n → (s.after r).files.node? q = some n)
            ∧ ∀ q text, (s.after r).files.node? q = some (.file text) →
              s.files.node? q = some (.file text) ∨ s.files.node? q = none ∧ text = "")
      ∧ ∀ q text rs', s.files.node? q = some (.file text) → (∀ l, ⟨.file q, l⟩ ∉ s.handlers) →
          (∀ before r after, rs' = before ++ r :: after →
            r.logFile? (s.runAll before) ≠ some q) →
          (s.runAll rs').files.node? q = some (.file text) := by
  intro s
  obtain ⟨console, path, hs, -⟩ := fitted_runAll (fitted_start w 0) rs
  refine ⟨fun rs' => hs.grows_runAll rs', fun r hr => ⟨fun p l hp => ?_, fun hnone => ?_⟩,
    fun r hr => ?_, fun q text rs' htext hq hname => ?_⟩
  · obtain ⟨rfl, rfl⟩ := hs.mem_handlers_file.1 hp
    exact hs.node?_after hr
  · have hpath : path = none :=
      Option.eq_none_iff_forall_ne_some.2 fun p hp => hnone p _ (hs.mem_handlers_file.2 ⟨hp, rfl⟩)
    rw [(hs.written r).2 hr, hpath]
    rfl
  · obtain ⟨su, hsu⟩ := Option.ne_none_iff_exists.1 hr
    exact ⟨fun q n hn => (extends_after hsu.symm).node? hn,
      fun q text h => (extends_after hsu.symm).file h⟩
  · exact hs.runAll_of_unwatched (fun hp => hq _ (hs.mem_handlers_file.2 ⟨hp, rfl⟩)) htext hname

/-- Behind a second setup the log file of the first one is left alone, and that of the second one
grows. -/
theorem files_only_grow_second_file :
    let first : Request := .setUp { file := .text "a.log", console := false }
    let second : Request := .setUp { file := .text "b.log", console := false }
    let said : Request := .log (.text "db") (.int 30) (.text "odd") { time := 0 }
    let s := State.start.runAll [first, said, second]
    ⟨.file ["logs", "b.log"], 20⟩ ∈ s.handlers
      ∧ (s.after said).files.node? ["logs", "b.log"]
          = some (.file "1970-01-01 00:00:00 - db - WARNING - odd\n")
      ∧ (s.after said).files.node? ["logs", "a.log"]
          = some (.file "1970-01-01 00:00:00 - db - WARNING - odd\n") := by
  intro first second said s
  have hhandler : ⟨.file ["logs", "b.log"], 20⟩ ∈ s.handlers := by decide
  obtain ⟨text, htext, hgrown, hothers⟩ :=
    ((files_only_grow {} [first, said, second]).2.1 said rfl).1 _ _ hhandler
  have hempty : s.files.node? ["logs", "b.log"] = some (.file "") := by decide
  obtain rfl : text = "" := by
    rw [hempty] at htext
    exact (Node.file.inj (Option.some.inj htext)).symm
  refine ⟨hhandler, hgrown.trans ?_, (hothers _ (by decide)).trans ?_⟩
  · decide
  · decide

end SqlText.Log
