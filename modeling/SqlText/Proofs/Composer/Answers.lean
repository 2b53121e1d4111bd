import SqlText.Proofs.Composer.Outcome
import SqlText.Proofs.Statement.Terminated

/-!
# What a request comes to

`run_perform` says what a clause call leaves behind. The same is said here of the requests that have
to do with the statement. Where the draft has a statement, rendering answers with it, reports it and
makes it the latest, and handing off does so too before it looks at the statement; where it has
none, both fail before anything is done. So a hand-off that is refused **has rendered**.
-/

namespace SqlText.Composer

variable {c : Composer} {s : String} {e : NotText}

/-- What a composer answers to a request. -/
def reply (c : Composer) (r : Request) : Except Failure Reply := ((answer r).run c).result

/-- What goes to the log while a request is answered. -/
def said (c : Composer) (r : Request) : List Log.Entry := ((answer r).run c).written

/-- What is said of a statement that is rendered. -/
def renderedEntry (s : String) : Log.Entry := .debug channel ("Rendered statement: " ++ s)

/-- What is said of a statement that is handed off. -/
def preparedEntry (s : String) : Log.Entry :=
  .debug HandOff.channel ("Prepared statement for execution: " ++ s)

/-! ## Rendering -/

theorem run_render_ok (h : c.draft.statement = .ok s) :
    render.run c = ⟨.ok s, [renderedEntry s], { c with latest := s }⟩ := by
  rw [render, Attempt.run_bind_ok (Attempt.run_state c), Outcome.after_nil, h]
  rfl

theorem run_render_error (h : c.draft.statement = .error e) :
    render.run c = ⟨.error (.notText e), [], c⟩ := by
  rw [render, Attempt.run_bind_ok (Attempt.run_state c), Outcome.after_nil, h]
  rfl

theorem run_answer_render_ok (h : c.draft.statement = .ok s) :
    (answer .render).run c = ⟨.ok (.text s), [renderedEntry s], { c with latest := s }⟩ :=
  Attempt.run_bind_ok (run_render_ok h)

theorem run_answer_render_error (h : c.draft.statement = .error e) :
    (answer .render).run c = ⟨.error (.notText e), [], c⟩ :=
  Attempt.run_bind_error (run_render_error h)

/-- The text of the statement is what rendering answers, and nothing is done. -/
theorem run_answer_text (c : Composer) :
    (answer .text).run c = ⟨reply c .render, [], c⟩ := by
  unfold reply
  cases h : c.draft.statement with
  | ok s =>
    rw [run_answer_render_ok h, answer, Attempt.run_bind_ok (Attempt.run_state c),
      Outcome.after_nil, h]
    rfl
  | error e =>
    rw [run_answer_render_error h, answer, Attempt.run_bind_ok (Attempt.run_state c),
      Outcome.after_nil, h]
    rfl

/-! ## Handing off -/

/-- Preparing a statement for execution, once it was looked at. -/
theorem run_prepare {σ : Type} (v : Value) (t : σ) :
    (HandOff.prepare v : Attempt Log.Entry σ HandOff.Refusal HandOff.Prepared).run t
      = match HandOff.check v with
        | .ok s => ⟨.ok ⟨s, Binding.parameters s⟩, [preparedEntry s], t⟩
        | .error r => ⟨.error r, [], t⟩ := by
  unfold HandOff.prepare
  cases h : HandOff.check v <;> rfl

/-- **A statement is handed off** as it is, with its bind parameters. -/
theorem run_handOff_ok (h : c.draft.statement = .ok s) (hne : s ≠ ";") :
    (answer .handOff).run c
      = ⟨.ok (.prepared ⟨s, Binding.parameters s⟩), [renderedEntry s, preparedEntry s],
          { c with latest := s }⟩ := by
  have hcheck : HandOff.check (.text s) = .ok s := by rw [Draft.check_statement h, if_neg hne]
  have hprepare : ((HandOff.prepare (.text s)).mapRefusal Failure.handOff).run
      { c with latest := s }
        = ⟨.ok ⟨s, Binding.parameters s⟩, [preparedEntry s], { c with latest := s }⟩ := by
    rw [Attempt.run_mapRefusal, run_prepare, hcheck]
    rfl
  rw [answer, Attempt.run_bind_ok (run_render_ok h), Attempt.run_bind_ok hprepare]
  rfl

/-- **A statement without clauses is refused**, after it was rendered. -/
theorem run_handOff_empty (h : c.draft.statement = .ok ";") :
    (answer .handOff).run c
      = ⟨.error (.handOff .empty), [renderedEntry ";"], { c with latest := ";" }⟩ := by
  have hprepare : ((HandOff.prepare (.text ";")).mapRefusal Failure.handOff).run
      { c with latest := ";" } = ⟨.error (.handOff .empty), [], { c with latest := ";" }⟩ := by
    rw [Attempt.run_mapRefusal, run_prepare, Draft.check_statement h, if_pos rfl]
    rfl
  rw [answer, Attempt.run_bind_ok (run_render_ok h), Attempt.run_bind_error hprepare]
  rfl

theorem run_handOff_error (h : c.draft.statement = .error e) :
    (answer .handOff).run c = ⟨.error (.notText e), [], c⟩ := by
  rw [answer, Attempt.run_bind_error (run_render_error h)]

/-! ## Answers -/

theorem reply_render (c : Composer) :
    reply c .render = (c.draft.statement.mapError .notText).map .text := by
  cases h : c.draft.statement with
  | ok s => rw [reply, run_answer_render_ok h]; rfl
  | error e => rw [reply, run_answer_render_error h]; rfl

/-- **The answer to handing off.** -/
theorem reply_handOff (c : Composer) :
    reply c .handOff
      = match c.draft.statement with
        | .error e => .error (.notText e)
        | .ok s =>
          if s = ";" then .error (.handOff .empty)
          else .ok (.prepared ⟨s, Binding.parameters s⟩) := by
  cases h : c.draft.statement with
  | error e => rw [reply, run_handOff_error h]
  | ok s =>
    by_cases hs : s = ";"
    · subst hs
      rw [reply, run_handOff_empty h]
      rfl
    · rw [reply, run_handOff_ok h hs]
      simp only [hs, if_false]

end SqlText.Composer
