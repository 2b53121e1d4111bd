import Mathlib.Data.List.Basic
import SqlText.Proofs.Composer.HandOff
import SqlText.Proofs.Composer.Wording

/-!
# The bind parameters of a statement

Everything the library writes into a statement is neutral: the marks around names and between them,
what stands before an alias or a condition, the separators of the fragments, the keywords, the space
between two segments and the semicolon. So **bind parameters compose**. Those of a statement are
those of its fragments (`named_laidOut`), those of a fragment are those of the arguments it is
worded with (`parameters_fragment`), and what is handed off with a composer's statement is what one
finds going through the arguments of its calls in the order in which they are rendered.
-/

namespace SqlText

theorem neutral_of_mem_layout :
    ∀ row ∈ layout, Binding.Leading row.2.1 ∧ Binding.Neutral row.2.2 := by decide

/-- Clauses that hold no text have no parameters, so it does not matter that they are left out. -/
theorem flatMap_filter_texts {α : Type} (texts : Clause → List String) (f : String → List α)
    (rows : List (Clause × String × String)) :
    ((rows.filter fun row => texts row.1 ≠ []).flatMap fun row => (texts row.1).flatMap f)
      = rows.flatMap fun row => (texts row.1).flatMap f := by
  induction rows with
  | nil => rfl
  | cons row rest ih =>
    rw [List.flatMap_cons, ← ih]
    by_cases h : texts row.1 = []
    · rw [List.filter_cons_of_neg (by simpa using h), h]
      rfl
    · rw [List.filter_cons_of_pos (by simpa using h), List.flatMap_cons]

/-- **Texts that are laid out and terminated keep their parameters**, in the order of the layout. -/
theorem named_laidOut (texts : Clause → List String) :
    Binding.named (String.intercalate " " (laidOut texts) ++ ";")
      = (layout.flatMap fun row => texts row.1).flatMap Binding.named := by
  have hsegment : ∀ row ∈ layout.filter fun row => texts row.1 ≠ [],
      Binding.named (row.2.1 ++ String.intercalate row.2.2 (texts row.1))
        = (texts row.1).flatMap Binding.named := by
    intro row hrow
    obtain ⟨hkeyword, hseparator⟩ := neutral_of_mem_layout row (List.mem_filter.1 hrow).1
    rw [Binding.named_leading hkeyword, Binding.named_intercalate hseparator]
  calc Binding.named (String.intercalate " " (laidOut texts) ++ ";")
      = (laidOut texts).flatMap Binding.named := by
        rw [Binding.named_terminated (by decide), Binding.named_intercalate (by decide)]
    _ = (layout.filter fun row => texts row.1 ≠ []).flatMap fun row =>
          (texts row.1).flatMap Binding.named := by
        rw [laidOut, List.flatMap_map]
        exact List.flatMap_congr hsegment
    _ = (layout.flatMap fun row => texts row.1).flatMap Binding.named := by
        rw [flatMap_filter_texts, List.flatMap_assoc]

namespace Composer

/-! ## Fragments -/

/-- **The parameters of a fragment are those of its arguments**, each at its first place. -/
theorem parameters_fragment {w : Wording} (h : w.Spaced) :
    Binding.parameters w.text
      = Binding.distinct (w.arguments.flatMap fun v => Binding.parameters v.toText) := by
  rw [Binding.parameters_eq_distinct, Wording.named_text h, Binding.distinct_flatMap_parameters]

theorem fragments_runAll {rs : List Request} (htextual : ∀ k ∈ callsOf rs, k.Textual)
    (clause : Clause) :
    (runAll fresh rs).draft.fragments clause
      = (wordingsOf (callsOf rs) clause).map Wording.fragment := by
  rw [draft_runAll]
  exact fragments_wordings htextual clause

theorem allTexts_runAll {rs : List Request} (htextual : ∀ k ∈ callsOf rs, k.Textual) :
    (runAll fresh rs).draft.AllTexts := by
  intro clause f hf
  rw [fragments_runAll htextual] at hf
  obtain ⟨w, -, rfl⟩ := List.mem_map.1 hf
  exact ⟨w.text, rfl⟩

/-! ## Statements -/

/-- **Bind parameters compose.** A composer that was given nothing but texts to keep, and in which
some clause has a fragment, is handed off with the text that rendering answers. Its bind parameters
are those of the fragments, each searched on its own, in the order of the layout and without
repetitions; and the parameters of a fragment are those of the arguments it is worded with, in the
order in which they appear in it. The parameters of any text are the names it has behind a colon. -/
theorem parameters_compose (rs : List Request) (htextual : ∀ k ∈ callsOf rs, k.Textual)
    (hne : ∃ clause, (runAll fresh rs).draft.fragments clause ≠ []) :
    let c := runAll fresh rs
    (∃ p, reply c .handOff = .ok (.prepared p) ∧ reply c .render = .ok (.text p.text)
        ∧ p.parameters = Binding.distinct
            ((layout.flatMap fun row => c.draft.texts row.1).flatMap Binding.parameters))
      ∧ (∀ clause,
          c.draft.fragments clause = (wordingsOf (callsOf rs) clause).map Wording.fragment
          ∧ ∀ w ∈ wordingsOf (callsOf rs) clause, Binding.parameters w.text
              = Binding.distinct (w.arguments.flatMap fun v => Binding.parameters v.toText))
      ∧ ∀ s t, t ∈ Binding.parameters s ↔ Binding.Names s t := by
  intro c
  have hstatement : c.draft.statement
      = .ok (String.intercalate " " (laidOut c.draft.texts) ++ ";") :=
    statement_of_allTexts (allTexts_runAll htextual)
  generalize hs : String.intercalate " " (laidOut c.draft.texts) ++ ";" = s at hstatement
  have hsome : s ≠ ";" := by
    rw [ne_eq, (sound_runAll rs).eq_semicolon_iff hstatement]
    exact fun hall => hne.elim fun clause hclause => hclause (hall clause)
  refine ⟨⟨⟨s, Binding.parameters s⟩, ?_, ?_, ?_⟩, fun clause => ⟨fragments_runAll htextual clause,
    fun w hw => parameters_fragment (spaced_wordingsOf (callsOf rs) clause w hw)⟩,
    fun _ _ => Binding.mem_parameters_iff⟩
  · rw [reply_handOff, hstatement]
    exact if_neg hsome
  · rw [reply_render, hstatement]
    rfl
  · show Binding.parameters s = _
    rw [Binding.parameters_eq_distinct, ← hs, named_laidOut]
    exact (Binding.distinct_flatMap_parameters id _).symm

/-- Parameters in the name of a column, in an alias and in conditions that were given before them,
where a cast and an escaped colon stand for none and no name is listed again. -/
theorem parameters_compose_conditions :
    let rs : List Request := [.call (.condition (.text "x = :b")),
      .call (.andCondition (.text "y = :c::int")),
      .call (.source (.text "t") (.text ":a")),
      .call (.selectColumn (.text "t:") (.text ":c") .null),
      .call (.orCondition (.text "\x5c:z = :c OR w = :a"))]
    (∀ k ∈ callsOf rs, k.Textual) ∧ (runAll fresh rs).draft.fragments .source ≠ []
      ∧ ∃ p, reply (runAll fresh rs) .handOff = .ok (.prepared p)
          ∧ p.parameters = ["c", "a", "b"] := by
  intro rs
  have htextual : ∀ k ∈ callsOf rs, k.Textual := by
    simp [rs, callsOf, Request.call?, Call.Textual]
  have hne : (runAll fresh rs).draft.fragments .source ≠ [] := List.cons_ne_nil _ _
  obtain ⟨⟨p, hp, -, hparameters⟩, -⟩ := parameters_compose rs htextual ⟨.source, hne⟩
  exact ⟨htextual, hne, p, hp, hparameters.trans (by decide +kernel)⟩

end Composer

end SqlText
