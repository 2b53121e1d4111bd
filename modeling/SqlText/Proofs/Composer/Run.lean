import SqlText.Proofs.Composer.Outcome
import SqlText.Proofs.Frame

/-!
# Runs of requests

The draft of a composer is changed by the clause calls that go through and by nothing else:
rendering and handing off store a statement, and the other requests store nothing. So the draft
after a run of requests is the draft after its clause calls, one by one (`draft_runAll`), and what
holds of the empty draft and is kept by every call that meets no objection holds of every draft
that a run leads to (`draft_invariant`).
-/

namespace SqlText.Composer

open Attempt

/-! ## Requests that read the draft -/

theorem keeps_draft_render : Keeps draft render :=
  keeps_state.bind fun _ => (keeps_ofExcept _).bind fun _ =>
    .bind (keeps_update fun _ => rfl) fun _ => (keeps_write _).bind fun _ => keeps_pure _

theorem keeps_prepare {σ τ : Type} (part : σ → τ) (v : Value) :
    Keeps part (HandOff.prepare v : Attempt Log.Entry σ HandOff.Refusal HandOff.Prepared) :=
  (keeps_ofExcept _).bind fun _ => (keeps_write _).bind fun _ => keeps_pure _

/-- The clause call that a request is, if it is one. -/
def Request.call? : Request → Option Call
  | .call k => some k
  | _ => none

/-- **No request but a clause call changes the draft.** -/
theorem keeps_draft_answer {r : Request} (h : r.call? = none) : Keeps draft (answer r) := by
  cases r with
  | call k => cases h
  | render => exact keeps_draft_render.bind fun _ => keeps_pure _
  | text => exact keeps_state.bind fun _ => (keeps_ofExcept _).bind fun _ => keeps_pure _
  | latest | clauses | describe => exact keeps_state.bind fun _ => keeps_pure _
  | handOff =>
    exact keeps_draft_render.bind fun _ =>
      ((keeps_prepare _ _).mapRefusal _).bind fun _ => keeps_pure _
  | insert table columns values => exact (keeps_ofExcept _).bind fun _ => keeps_pure _

/-! ## The draft after a run -/

/-- A draft after a call: revised in the call's clause if the call meets no objection. -/
def draftAfter (d : Draft) (k : Call) : Draft :=
  if k.objections d = [] then d.setFragments k.clause (k.revise (d.fragments k.clause)) else d

theorem draft_after_call (c : Composer) (k : Call) :
    (after c (.call k)).draft = draftAfter c.draft k := by
  rw [after, run_answer_call, draftAfter]
  cases k.objections c.draft with
  | nil => rw [if_pos rfl]; rfl
  | cons r rest => rw [if_neg (List.cons_ne_nil r rest)]

/-- The clause calls among some requests. -/
def callsOf (rs : List Request) : List Call := rs.filterMap Request.call?

/-- **The draft after a run of requests** is the draft after its clause calls, one by one. -/
theorem draft_runAll (c : Composer) (rs : List Request) :
    (runAll c rs).draft = (callsOf rs).foldl draftAfter c.draft := by
  induction rs generalizing c with
  | nil => rfl
  | cons r rest ih =>
    show (runAll (after c r) rest).draft = _
    rw [ih]
    unfold callsOf
    rw [List.filterMap_cons]
    cases hr : r.call? with
    | none => rw [show (after c r).draft = c.draft from keeps_draft_answer hr c]
    | some k =>
      obtain rfl : r = .call k := by
        cases r <;> simp_all [Request.call?]
      rw [draft_after_call]
      rfl

/-- **What the empty draft has and every call that goes through keeps, every draft has** that a
run leads to. -/
theorem draft_invariant {P : Draft → Prop} (hempty : P .empty)
    (hkeep : ∀ (d : Draft) (k : Call), P d → k.objections d = [] →
      P (d.setFragments k.clause (k.revise (d.fragments k.clause))))
    (rs : List Request) : P (runAll fresh rs).draft := by
  rw [draft_runAll]
  suffices h : ∀ (ks : List Call) d, P d → P (ks.foldl draftAfter d) from h _ _ hempty
  intro ks
  induction ks with
  | nil => exact fun d hd => hd
  | cons k rest ih =>
    intro d hd
    refine ih _ ?_
    unfold draftAfter
    split
    · next hobj => exact hkeep d k hd hobj
    · exact hd

end SqlText.Composer
