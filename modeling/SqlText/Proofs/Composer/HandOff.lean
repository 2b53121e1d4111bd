import SqlText.Proofs.Composer.Answers
import SqlText.Proofs.Composer.Sound
import SqlText.Proofs.Statement.Failure

/-!
# Handing a composer off

The check that a statement passes before it is handed off is made for statements from anywhere, and
most of what it guards against cannot come from a composer. A composer's statement is a text and
ends with its semicolon, whatever the fragments are, so **two of the three refusals never come up**;
and the third, that there is nothing to hand off, comes up exactly where nothing was added to any
clause. What is left is that there is no statement to begin with, and then rendering fails alike.
-/

namespace SqlText

namespace Draft

variable {d : Draft}

theorem Sound.shows_iff (hd : d.Sound) (c : Clause) : d.shows c = true ↔ d.fragments c ≠ [] := by
  rw [shows_eq hd.source_of_join, Bool.not_eq_true', ← Bool.not_eq_true, isEmptyAt_iff]

theorem Sound.statement_error_iff (hd : d.Sound) :
    (∃ e, d.statement = .error e) ↔ ∃ c, ∃ f ∈ d.fragments c, f.asText? = none := by
  rw [Draft.statement_error_iff]
  refine exists_congr fun c => and_iff_right_of_imp ?_
  rintro ⟨f, hf, -⟩
  exact (d.mem_joinedClauses_iff c).2 fun hj => hd.source_of_join c hj (List.ne_nil_of_mem hf)

theorem Sound.eq_semicolon_iff (hd : d.Sound) {s : String} (h : d.statement = .ok s) :
    s = ";" ↔ ∀ c, d.fragments c = [] := by
  rw [Draft.eq_semicolon_iff h]
  refine forall_congr' fun c => ?_
  rw [← Bool.not_eq_true, hd.shows_iff, ne_eq, Decidable.not_not]

end Draft

namespace Composer

/-- **The outcomes of handing off.** After any requests to a fresh composer, handing it off fails as
rendering does, is refused as empty, or succeeds, and nothing else. Rendering fails exactly where
some fragment is no text; the composer is refused as empty exactly where no clause has a fragment;
and what is handed off is the text that rendering answers. In no case does a clause change. -/
theorem handOff_outcomes (rs : List Request) :
    let c := runAll fresh rs
    ((∃ e, reply c .handOff = .error (.notText e)) ∨ reply c .handOff = .error (.handOff .empty)
        ∨ ∃ p, reply c .handOff = .ok (.prepared p))
      ∧ (∀ failure, reply c .render = .error failure ↔
          ∃ e, failure = .notText e ∧ reply c .handOff = .error (.notText e))
      ∧ ((∃ e, reply c .handOff = .error (.notText e)) ↔
          ∃ clause, ∃ f ∈ c.draft.fragments clause, f.asText? = none)
      ∧ (reply c .handOff = .error (.handOff .empty) ↔ ∀ clause, c.draft.fragments clause = [])
      ∧ HandOff.Refusal.empty.message = "Cannot hand off an empty statement."
      ∧ (∀ p, reply c .handOff = .ok (.prepared p) →
          reply c .render = .ok (.text p.text) ∧ p.parameters = Binding.parameters p.text)
      ∧ ∀ clause, (after c .handOff).draft.fragments clause = c.draft.fragments clause := by
  intro c
  have hd : c.draft.Sound := sound_runAll rs
  have hdraft : (after c .handOff).draft = c.draft := keeps_draft_answer rfl c
  have hkept : ∀ clause, (after c .handOff).draft.fragments clause = c.draft.fragments clause :=
    fun clause => by rw [hdraft]
  have herror := hd.statement_error_iff
  rw [reply_render, reply_handOff]
  cases h : c.draft.statement with
  | error e =>
    rw [h] at herror
    obtain ⟨clause, f, hf, hnone⟩ := herror.1 ⟨e, rfl⟩
    have hfilled : ¬ ∀ clause, c.draft.fragments clause = [] :=
      fun hempty => List.ne_nil_of_mem hf (hempty clause)
    refine ⟨.inl ⟨e, rfl⟩, ?_, by simpa using ⟨clause, f, hf, hnone⟩, by simpa using hfilled, rfl,
      by simp, hkept⟩
    intro failure
    simp [Except.map, eq_comm]
  | ok s =>
    rw [h] at herror
    have htexts : ¬ ∃ clause, ∃ f ∈ c.draft.fragments clause, f.asText? = none := by
      simp [← herror]
    have hbare := hd.eq_semicolon_iff h
    by_cases hs : s = ";"
    · simp only [if_pos hs]
      exact ⟨.inr (.inl trivial), by simp [Except.map], by simpa using htexts,
        iff_of_true trivial (hbare.1 hs), rfl, by simp, hkept⟩
    · simp only [if_neg hs]
      refine ⟨.inr (.inr ⟨_, rfl⟩), by simp [Except.map], by simpa using htexts,
        iff_of_false (by simp) (mt hbare.2 hs), rfl, ?_, hkept⟩
      intro p hp
      obtain rfl := Reply.prepared.inj (Except.ok.inj hp)
      exact ⟨rfl, rfl⟩

end Composer

end SqlText
