import SqlText.Log.Request
import SqlText.Proofs.Composer.Run

/-!
# What the library says of its own work

Whatever a composer answers, and wherever it fails, all that it hands to the log are entries for
those who trace its work, on the channels of the library (`writesOnly_answerAll`). These are
known from the start, and never become known on the way. Only of what is handed off it does not
speak on the channel of composers (`writesOnly_answerAll_of_ne`).
-/

namespace SqlText.Log

open Attempt

/-- An entry for whoever traces the work of the library, on one of its channels. -/
def Entry.OfLibrary (e : Entry) : Prop :=
  ∃ channel ∈ libraryChannels, ∃ message, e = .debug channel message

/-- An entry for whoever traces the work of composers. -/
def Entry.OfComposer (e : Entry) : Prop := ∃ message, e = .debug Composer.channel message

variable {e : Entry}

theorem Entry.OfComposer.ofLibrary (h : e.OfComposer) : e.OfLibrary :=
  ⟨_, List.mem_cons_self, h⟩

theorem ofLibrary_handOff (message : String) : (Entry.debug HandOff.channel message).OfLibrary :=
  ⟨_, List.mem_cons_of_mem _ List.mem_cons_self, message, rfl⟩

/-- What a refused call reports. -/
theorem ofComposer_of_mem_report (k : Composer.Call) (r : Composer.Refusal) :
    ∀ e ∈ k.report r, e.OfComposer := by
  induction r with
  | columns cause ih => exact ih
  | joinBeforeSource =>
    cases k with
    | join => exact List.forall_mem_singleton.2 ⟨_, rfl⟩
    | _ => exact List.forall_mem_nil _
  | notCollection | edit => exact List.forall_mem_nil _
  | _ => exact List.forall_mem_singleton.2 ⟨_, rfl⟩

/-- A clause call says nothing, or what it reports of its first objection. -/
theorem writesOnly_call (k : Composer.Call) :
    WritesOnly Entry.OfComposer (Composer.answer (.call k)) := by
  intro c
  rw [Composer.run_answer_call]
  cases k.objections c.draft with
  | nil => exact List.forall_mem_nil _
  | cons r rest => exact ofComposer_of_mem_report k r

theorem writesOnly_render : WritesOnly Entry.OfComposer Composer.render :=
  writesOnly_state.bind fun _ => (writesOnly_ofExcept _).bind fun _ =>
    (writesOnly_update _).bind fun _ => (writesOnly_write ⟨_, rfl⟩).bind fun _ =>
      writesOnly_pure _

theorem writesOnly_prepare {σ : Type} (v : Value) :
    WritesOnly Entry.OfLibrary
      (HandOff.prepare v : Attempt Entry σ HandOff.Refusal HandOff.Prepared) :=
  (writesOnly_ofExcept _).bind fun _ => (writesOnly_write (ofLibrary_handOff _)).bind fun _ =>
    writesOnly_pure _

/-- Whatever is asked of a composer but to be handed off, it says so itself. -/
theorem writesOnly_answer_of_ne {r : Composer.Request} (h : r ≠ .handOff) :
    WritesOnly Entry.OfComposer (Composer.answer r) := by
  cases r with
  | call k => exact writesOnly_call k
  | render => exact writesOnly_render.bind fun _ => writesOnly_pure _
  | text =>
    exact writesOnly_state.bind fun _ => (writesOnly_ofExcept _).bind fun _ => writesOnly_pure _
  | latest | clauses | describe => exact writesOnly_state.bind fun _ => writesOnly_pure _
  | handOff => exact absurd rfl h
  | insert table columns values =>
    exact (writesOnly_ofExcept _).bind fun _ => writesOnly_pure _

/-- Every request of a composer says only what is said on the channels of the library. -/
theorem writesOnly_answer (r : Composer.Request) :
    WritesOnly Entry.OfLibrary (Composer.answer r) := by
  have hcomposer : ∀ e : Entry, e.OfComposer → e.OfLibrary := fun _ => Entry.OfComposer.ofLibrary
  cases r with
  | handOff =>
    exact (writesOnly_render.mono hcomposer).bind fun _ =>
      ((writesOnly_prepare _).mapRefusal _).bind fun _ => writesOnly_pure _
  | _ => exact (writesOnly_answer_of_ne (by simp)).mono hcomposer

/-- What every request says, and the rendering behind them, they say one after another. -/
theorem writesOnly_answerAll_of {P : Entry → Prop} {rs : List Composer.Request}
    (hanswer : ∀ r ∈ rs, WritesOnly P (Composer.answer r))
    (hrender : WritesOnly P Composer.render) : WritesOnly P (Composer.answerAll rs) := by
  induction rs with
  | nil => exact hrender
  | cons r rest ih =>
    exact (hanswer r List.mem_cons_self).bind fun _ =>
      ih fun r hr => hanswer r (List.mem_cons_of_mem _ hr)

/-- **All that a composer says is said on the channels of the library**, for those who trace its
work. -/
theorem writesOnly_answerAll (rs : List Composer.Request) :
    WritesOnly Entry.OfLibrary (Composer.answerAll rs) :=
  writesOnly_answerAll_of (fun r _ => writesOnly_answer r)
    (writesOnly_render.mono fun _ => Entry.OfComposer.ofLibrary)

/-- **Unless it is handed off**, it is all said on the channel of composers. -/
theorem writesOnly_answerAll_of_ne {rs : List Composer.Request} (h : ∀ r ∈ rs, r ≠ .handOff) :
    WritesOnly Entry.OfComposer (Composer.answerAll rs) :=
  writesOnly_answerAll_of (fun r hr => writesOnly_answer_of_ne (h r hr)) writesOnly_render

end SqlText.Log
