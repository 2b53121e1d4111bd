import SqlText.Proofs.Composer.Answers
import SqlText.Proofs.Composer.Run

/-!
# The latest statement

A composer keeps the last statement it rendered, apart from the draft, so that the two drift apart
with every clause call and come together again with the next rendering. What counts as rendering is
told by the answers: one that is a rendered text, one that is a statement handed off, **and the
refusal to hand off an empty statement**, which comes after the semicolon was rendered. The latest
statement is the last of these, in every run (`latest_runAll`), because each request replaces it by
the text that its answer tells of and leaves it alone where there is none (`latest_after`).
-/

namespace SqlText.Composer

open Attempt

/-- **The text that a request rendered**, as its answer tells. -/
def renderedText (r : Request) (answered : Except Failure Reply) : Option String :=
  match r, answered with
  | .render, .ok (.text s) => some s
  | .handOff, .ok (.prepared p) => some p.text
  | .handOff, .error (.handOff .empty) => some ";"
  | _, _ => none

/-- The texts that the requests of a run rendered, in order. -/
def renderings (c : Composer) : List Request → List String
  | [] => []
  | r :: rest => (renderedText r (reply c r)).toList ++ renderings (after c r) rest

/-! ## One request -/

theorem latest_after_call (c : Composer) (k : Call) : (after c (.call k)).latest = c.latest := by
  unfold after
  rw [run_answer_call]
  cases k.objections c.draft <;> rfl

/-- **A request replaces the latest statement by what it rendered**, and leaves it alone where it
rendered nothing. -/
theorem latest_after (c : Composer) (r : Request) :
    (after c r).latest = (renderedText r (reply c r)).getD c.latest := by
  cases r with
  | call k => exact latest_after_call c k
  | render =>
    unfold after reply
    cases h : c.draft.statement with
    | ok s => rw [run_answer_render_ok h]; rfl
    | error e => rw [run_answer_render_error h]; rfl
  | text =>
    unfold after
    rw [run_answer_text]
    rfl
  | latest | clauses | describe => rfl
  | handOff =>
    unfold after reply
    cases h : c.draft.statement with
    | ok s =>
      by_cases hs : s = ";"
      · subst hs
        rw [run_handOff_empty h]
        rfl
      · rw [run_handOff_ok h hs]
        rfl
    | error e => rw [run_handOff_error h]; rfl
  | insert table columns values =>
    have hkeeps : Keeps latest (answer (.insert table columns values)) :=
      (keeps_ofExcept _).bind fun _ => keeps_pure _
    exact hkeeps c

/-! ## Runs -/

/-- The latest statement after a run is the last that the run rendered, or else the one before. -/
theorem latest_foldl (c : Composer) (rs : List Request) :
    (runAll c rs).latest = (renderings c rs).getLast?.getD c.latest := by
  induction rs generalizing c with
  | nil => rfl
  | cons r rest ih =>
    show (runAll (after c r) rest).latest = _
    rw [ih, latest_after, renderings, List.getLast?_append]
    cases (renderings (after c r) rest).getLast? with
    | some s => rfl
    | none => cases renderedText r (reply c r) <;> rfl

/-- **The latest statement over whole runs.** After any requests to a fresh composer, answered or
not, the latest statement is the last that one of them rendered, and empty if none did; and this is
so because each request replaces it by what it rendered and by nothing else. The text of the
statement, which is not kept, is at any time what rendering would answer; and no request but a
clause call changes a clause. -/
theorem latest_runAll (rs : List Request) :
    reply (runAll fresh rs) .latest
        = .ok (.text ((renderings fresh rs).getLast?.getD ""))
      ∧ (∀ (c : Composer) (r : Request),
          (after c r).latest = (renderedText r (reply c r)).getD c.latest)
      ∧ (∀ c : Composer, reply c .text = reply c .render)
      ∧ ∀ (c : Composer) (r : Request), r.call? = none →
          ∀ clause, (after c r).draft.fragments clause = c.draft.fragments clause := by
  refine ⟨?_, latest_after, fun c => ?_, fun c r hr clause => ?_⟩
  · show Except.ok (Reply.text (runAll fresh rs).latest) = _
    rw [latest_foldl]
    rfl
  · rw [reply, run_answer_text]
  · rw [show (after c r).draft = c.draft from keeps_draft_answer hr c]

end SqlText.Composer
