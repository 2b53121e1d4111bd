import SqlText.Proofs.Composer.Parameters

/-!
# When rendering fails

Nothing stops a caller from handing over something that is no text, and nobody says so before the
statement is rendered. Then it depends on where it went. What is written into a fragment is a text
from then on, whatever it was: a name, an alias, the condition of a join, a further condition behind
its connective. **Only what is kept as it was given stays what it is**: an expression that is
selected, and a condition that stands first in its clause. So after any requests every other
fragment is a text (`worded_runAll`), and rendering fails for one of these or not at all
(`rendering_fails_exactly`).
-/

namespace SqlText

/-- **The fragments of a clause that the library words itself**: none of those that are selected,
those behind the first in a clause of conditions, and all in any other. -/
def Clause.worded (c : Clause) (fs : List Value) : List Value :=
  match c with
  | .select => []
  | .filter | .having => fs.tail
  | .source | .innerJoin | .leftJoin | .rightJoin | .groupBy | .sortBy => fs

/-- What the library words itself is a text. -/
def Draft.Worded (d : Draft) : Prop :=
  ∀ c : Clause, ∀ f ∈ c.worded (d.fragments c), ∃ s, f = .text s

namespace Composer

variable {d : Draft} {k : Call}

/-! ## What the library words -/

theorem text_of_mem_concat {fs : List Value} (hfs : ∀ f ∈ fs, ∃ s, f = .text s) (t : String) :
    ∀ f ∈ fs ++ [.text t], ∃ s, f = .text s :=
  List.forall_mem_append.2 ⟨hfs, List.forall_mem_singleton.2 ⟨t, rfl⟩⟩

theorem text_of_mem_tail_extend {fs : List Value} (hfs : ∀ f ∈ fs.tail, ∃ s, f = .text s)
    (connective test : Value) : ∀ f ∈ (extend fs connective test).tail, ∃ s, f = .text s := by
  unfold extend
  cases fs with
  | nil => exact List.forall_mem_nil _
  | cons f rest => exact text_of_mem_concat hfs _

/-- **A call that goes through words texts**, besides what it keeps as it was given. -/
theorem text_of_mem_revise (k : Call) {fs : List Value}
    (hfs : ∀ f ∈ k.clause.worded fs, ∃ s, f = .text s) :
    ∀ f ∈ k.clause.worded (k.revise fs), ∃ s, f = .text s := by
  cases k with
  | selectAll | selectColumn | selectColumns | selectCode => exact List.forall_mem_nil _
  | source table label => exact text_of_mem_concat hfs _
  | join kind table label test => cases kind <;> exact text_of_mem_concat hfs _
  | condition test => exact List.forall_mem_nil _
  | andCondition test | orCondition test | having test connective =>
    exact text_of_mem_tail_extend hfs _ _
  | groupBy column | sortBy column => exact text_of_mem_concat hfs _
  | groupByTableColumn table column | sortByTableColumn table column =>
    exact text_of_mem_concat hfs _

/-- **After any requests what the library words itself is a text.** -/
theorem worded_runAll (rs : List Request) : (runAll fresh rs).draft.Worded := by
  refine draft_invariant (P := Draft.Worded) (fun c f hf => ?_) (fun d k hd _ c => ?_) rs
  · cases c <;> cases hf
  · by_cases hc : c = k.clause
    · rw [hc, Draft.fragments_setFragments_self]
      exact text_of_mem_revise k (hd k.clause)
    · rw [Draft.fragments_setFragments_of_ne d hc]
      exact hd c

/-! ## What is found to be no text -/

theorem not_texts_of_mem {vs : List Value} {v : Value} (hv : v ∈ vs) (hnone : v.asText? = none) :
    ¬ ∀ v ∈ vs, ∃ s, v = .text s := by
  intro htexts
  obtain ⟨s, rfl⟩ := htexts v hv
  cases hnone

/-- Where all behind the first value are texts, what is found to be no text is the first value. -/
theorem firstNotText?_of_tail {vs : List Value} {e : NotText} (h : firstNotText? vs = some e)
    (htail : ∀ v ∈ vs.tail, ∃ s, v = .text s) : e.index = 0 ∧ vs.head? = some e.found := by
  obtain ⟨texts, rest, rfl, -, hnone, hindex⟩ := firstNotText?_eq_some_iff.1 h
  cases texts with
  | nil => exact ⟨hindex, rfl⟩
  | cons v texts =>
    exact absurd htail (not_texts_of_mem (List.mem_append_right texts List.mem_cons_self) hnone)

/-- **Where the fragment stands that is no text**: among those that are selected, or first in a
clause of conditions. -/
theorem place_of_statement_error (hd : d.Worded) {e : NotText} (h : d.statement = .error e) :
    e.found.asText? = none
      ∧ (firstNotText? (d.fragments .select) = some e
        ∨ e.index = 0 ∧ ((d.fragments .filter).head? = some e.found
            ∨ (d.fragments .having).head? = some e.found)) := by
  obtain ⟨c, -, hc⟩ := List.exists_of_findSome?_eq_some ((d.statement_eq_error_iff e).1 h)
  obtain ⟨hmem, hnone⟩ := mem_of_firstNotText? hc
  have hworded := hd c
  refine ⟨hnone, ?_⟩
  cases c with
  | select => exact .inl hc
  | filter =>
    obtain ⟨hindex, hhead⟩ := firstNotText?_of_tail hc hworded
    exact .inr ⟨hindex, .inl hhead⟩
  | having =>
    obtain ⟨hindex, hhead⟩ := firstNotText?_of_tail hc hworded
    exact .inr ⟨hindex, .inr hhead⟩
  | source | innerJoin | leftJoin | rightJoin | groupBy | sortBy =>
    exact absurd hworded (not_texts_of_mem hmem hnone)

/-- **So there is no statement** exactly where one of these is no text. -/
theorem statement_error_iff_of_worded (hd : d.Worded) :
    (∃ e, d.statement = .error e)
      ↔ (∃ f ∈ d.fragments .select, f.asText? = none)
        ∨ (∃ f ∈ (d.fragments .filter).head?, f.asText? = none)
        ∨ ∃ f ∈ (d.fragments .having).head?, f.asText? = none := by
  have hjoined : ∀ c : Clause, c.isJoin = false → c ∈ d.joinedClauses :=
    fun c hc => (d.mem_joinedClauses_iff c).2 (by simp [hc])
  constructor
  · rintro ⟨e, he⟩
    obtain ⟨hnone, hselect | ⟨-, hfilter | hhaving⟩⟩ := place_of_statement_error hd he
    · exact .inl ⟨e.found, (mem_of_firstNotText? hselect).1, hnone⟩
    · exact .inr (.inl ⟨e.found, hfilter, hnone⟩)
    · exact .inr (.inr ⟨e.found, hhaving, hnone⟩)
  · rw [Draft.statement_error_iff]
    rintro (⟨f, hf, hnone⟩ | ⟨f, hf, hnone⟩ | ⟨f, hf, hnone⟩)
    · exact ⟨.select, hjoined _ rfl, f, hf, hnone⟩
    · exact ⟨.filter, hjoined _ rfl, f, List.mem_of_mem_head? hf, hnone⟩
    · exact ⟨.having, hjoined _ rfl, f, List.mem_of_mem_head? hf, hnone⟩

/-! ## Rendering -/

/-- Rendering fails where there is no statement, with what is reported of that. -/
theorem reply_render_error_iff (c : Composer) (failure : Failure) :
    reply c .render = .error failure
      ↔ ∃ e, failure = .notText e ∧ c.draft.statement = .error e := by
  rw [reply_render, map_eq_error_iff]
  cases c.draft.statement with
  | ok s => simp
  | error e => simp [eq_comm]

/-- **When rendering fails.** A draft of any fragments has no statement exactly where a clause that
is joined holds one that is no text, and what is reported is the first in the first such clause,
with its position there and its kind. After any requests to a fresh composer all fragments are texts
but those that are selected and the first in each clause of conditions. So rendering fails exactly
where one of these is no text, the position is the first where it is a condition, and rendering
does not fail where the calls were given texts to keep. -/
theorem rendering_fails_exactly :
    (∀ d : Draft,
        ((∃ e, d.statement = .error e)
          ↔ ∃ c ∈ d.joinedClauses, ∃ f ∈ d.fragments c, f.asText? = none)
        ∧ ∀ e, d.statement = .error e
          ↔ d.joinedClauses.findSome? (fun c => firstNotText? (d.fragments c)) = some e)
      ∧ (∀ e : NotText, e.message
          = "sequence item " ++ toString e.index ++ ": expected str instance, "
            ++ e.found.typeName ++ " found")
      ∧ ∀ rs : List Request,
          let c := runAll fresh rs
          (∀ clause : Clause, ∀ f ∈ clause.worded (c.draft.fragments clause), ∃ s, f = .text s)
          ∧ (∀ failure, reply c .render = .error failure
              ↔ ∃ e, failure = .notText e ∧ c.draft.statement = .error e)
          ∧ ((∃ failure, reply c .render = .error failure)
              ↔ (∃ f ∈ c.draft.fragments .select, f.asText? = none)
                ∨ (∃ f ∈ (c.draft.fragments .filter).head?, f.asText? = none)
                ∨ ∃ f ∈ (c.draft.fragments .having).head?, f.asText? = none)
          ∧ (∀ e, reply c .render = .error (.notText e) →
              firstNotText? (c.draft.fragments .select) = some e
              ∨ e.index = 0 ∧ ((c.draft.fragments .filter).head? = some e.found
                  ∨ (c.draft.fragments .having).head? = some e.found))
          ∧ ((∀ k ∈ callsOf rs, k.Textual) → ∃ s, reply c .render = .ok (.text s)) := by
  refine ⟨fun d => ⟨d.statement_error_iff, d.statement_eq_error_iff⟩, fun _ => rfl, fun rs => ?_⟩
  intro c
  have hworded : c.draft.Worded := worded_runAll rs
  have hfails : (∃ failure, reply c .render = .error failure)
      ↔ ∃ e, c.draft.statement = .error e := by
    simp only [reply_render_error_iff]
    exact ⟨fun ⟨_, e, _, he⟩ => ⟨e, he⟩, fun ⟨e, he⟩ => ⟨_, e, rfl, he⟩⟩
  refine ⟨hworded, reply_render_error_iff c, ?_, ?_, ?_⟩
  · rw [hfails, statement_error_iff_of_worded hworded]
  · intro e he
    obtain ⟨_, heq, hstatement⟩ := (reply_render_error_iff c _).1 he
    obtain rfl := Failure.notText.inj heq
    exact (place_of_statement_error hworded hstatement).2
  · intro htextual
    refine ⟨String.intercalate " " (laidOut c.draft.texts) ++ ";", ?_⟩
    rw [reply_render, statement_of_allTexts (allTexts_runAll htextual)]
    rfl

/-- A number that is selected behind a text. -/
example :
    reply (runAll fresh [.call (.selectCode (.text "a")), .call (.selectCode (.int 5))]) .render
      = .error (.notText ⟨1, .int 5⟩) := rfl

end Composer

end SqlText
