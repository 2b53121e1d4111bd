import SqlText.Proofs.Composer.Run
import SqlText.Proofs.Draft.Runs
import SqlText.Proofs.Statement.Segments

/-!
# No clause is lost

The segments of a draft leave out its joins where there is no table to join to. In a draft that
somebody filled by hand that may happen, and the joins vanish without a word. **It does not happen
in the draft of a composer**, whatever was asked of it before and however much of that was refused:
a join is let in only behind a table, and tables are never taken away. `Draft.Sound` is the
invariant, `sound_runAll` says that every run keeps it, and `render_complete` draws the conclusion:
what is rendered is every clause that has a fragment, with all its fragments.
-/

namespace SqlText

/-- **What the draft of a composer always has.** -/
structure Draft.Sound (d : Draft) : Prop where
  /-- No fragment is blank. -/
  visible : ∀ c, ∀ f ∈ d.fragments c, f.isBlank = false
  /-- Where there are joins there is a table to join to. -/
  source_of_join : ∀ c, c.isJoin = true → d.fragments c ≠ [] → d.fragments .source ≠ []
  /-- A join starts with the keyword of its side, and there is more to it than that. -/
  keyword_of_join : ∀ kind : Composer.Join, ∀ f ∈ d.fragments kind.clause,
    ∃ rest, f = .text (kind.keyword ++ " " ++ rest) ∧ Text.isBlankText rest = false

namespace Composer

/-! ## What a call that goes through keeps -/

/-- The fragments of several columns are visible. -/
theorem isBlank_of_mem_columnsFragments {table columns aliases : Value} :
    ∀ f ∈ columnsFragments table columns aliases, f.isBlank = false := by
  intro f hf
  unfold columnsFragments at hf
  split at hf
  · cases hf
  · split at hf
    · cases hf
    · obtain ⟨p, -, rfl⟩ := List.mem_map.1 hf
      exact isBlank_columnFragment table p.1 p.2

/-- **A call that goes through brings no blank fragment in.** -/
theorem isBlank_of_mem_revise {k : Call} (hk : blanks k.required = []) {fs : List Value}
    (hfs : ∀ f ∈ fs, f.isBlank = false) : ∀ f ∈ k.revise fs, f.isBlank = false := by
  have harg : ∀ a ∈ k.required, a.1.isBlank = false := blanks_eq_nil_iff.1 hk
  cases k with
  | selectAll =>
    intro f hf
    rw [List.mem_singleton.1 hf]
    decide
  | selectColumn table column label =>
    exact Draft.isBlank_of_mem_concat hfs (isBlank_columnFragment table column label)
  | selectColumns table columns aliases =>
    intro f hf
    rcases List.mem_append.1 hf with hf | hf
    · exact hfs f hf
    · exact isBlank_of_mem_columnsFragments f hf
  | selectCode code => exact Draft.isBlank_of_mem_concat hfs (harg _ List.mem_cons_self)
  | source table label => exact Draft.isBlank_of_mem_concat hfs (isBlank_sourceFragment table label)
  | join kind table label test =>
    exact Draft.isBlank_of_mem_concat hfs (isBlank_joinFragment kind table label test)
  | condition test =>
    intro f hf
    rw [List.mem_singleton.1 hf]
    exact harg _ List.mem_cons_self
  | andCondition test | orCondition test | having test connective =>
    exact Draft.isBlank_of_mem_addJoined hfs (harg _ List.mem_cons_self) _
  | groupBy column | sortBy column =>
    exact Draft.isBlank_of_mem_concat hfs (isBlank_quoteIdentifier column)
  | groupByTableColumn table column | sortByTableColumn table column =>
    exact Draft.isBlank_of_mem_concat hfs (isBlank_tableColumn table column)

theorem revise_ne_nil_of_source {k : Call} (hk : k.clause = .source) (fs : List Value) :
    k.revise fs ≠ [] := by
  cases k with
  | source table label => exact List.append_ne_nil_of_right_ne_nil _ (List.cons_ne_nil _ _)
  | join kind table label test => cases kind <;> cases hk
  | _ => cases hk

/-- A call aimed at joins is a join, and goes through only where there is a table to join to. -/
theorem source_ne_nil_of_join {d : Draft} {k : Call} (hj : k.clause.isJoin = true)
    (hobj : k.objections d = []) : d.fragments .source ≠ [] := by
  cases k with
  | join kind table label test =>
    intro hsource
    have hlater := (List.append_eq_nil_iff.1 hobj).2
    rw [Call.laterObjections, if_pos hsource] at hlater
    exact List.cons_ne_nil _ _ hlater
  | _ => cases hj

/-- The fragment of a join: its keyword, and a table behind it. -/
theorem joinFragment_keyword (kind : Join) (table label test : Value) :
    ∃ rest, joinFragment kind table label test = kind.keyword ++ " " ++ rest
      ∧ Text.isBlankText rest = false := by
  refine ⟨withAlias (quoteIdentifier table) " AS " label ++ " ON " ++ test.toText, ?_, ?_⟩
  · unfold joinFragment withAlias
    split <;> simp only [String.append_assoc]
  · simp [isBlankText_withAlias (isBlankText_quoteIdentifier table)]

/-- A call aimed at the joins of a side adds a join of this side. -/
theorem keyword_of_mem_revise {k : Call} {kind : Join} (hk : k.clause = kind.clause)
    {fs : List Value} {f : Value} (hf : f ∈ k.revise fs) :
    f ∈ fs ∨ ∃ rest, f = .text (kind.keyword ++ " " ++ rest) ∧ Text.isBlankText rest = false := by
  cases k with
  | join kind' table label test =>
    obtain rfl : kind' = kind := by
      cases kind' <;> cases kind <;> first | rfl | cases hk
    rcases List.mem_append.1 hf with hf | hf
    · exact .inl hf
    · obtain ⟨rest, hrest, hvisible⟩ := joinFragment_keyword kind' table label test
      exact .inr ⟨rest, by rw [List.mem_singleton.1 hf, hrest], hvisible⟩
  | _ => cases kind <;> cases hk

/-! ## The invariant -/

theorem sound_empty : Draft.empty.Sound where
  visible := by simp
  source_of_join := by simp
  keyword_of_join := by simp

/-- **Soundness is kept by every call that goes through.** -/
theorem sound_revise {d : Draft} (hd : d.Sound) {k : Call} (hobj : k.objections d = []) :
    (d.setFragments k.clause (k.revise (d.fragments k.clause))).Sound where
  visible := by
    intro c f hf
    by_cases hc : c = k.clause
    · subst hc
      rw [Draft.fragments_setFragments_self] at hf
      exact isBlank_of_mem_revise (List.append_eq_nil_iff.1 hobj).1 (hd.visible k.clause) f hf
    · rw [Draft.fragments_setFragments_of_ne d hc] at hf
      exact hd.visible c f hf
  source_of_join := by
    -- the call is let in as a join, or the joins were there before it
    intro c hj hne
    have hsource : d.fragments .source ≠ [] := by
      by_cases hc : c = k.clause
      · exact source_ne_nil_of_join (hc ▸ hj) hobj
      · rw [Draft.fragments_setFragments_of_ne d hc] at hne
        exact hd.source_of_join c hj hne
    by_cases hk : .source = k.clause
    · rw [hk, Draft.fragments_setFragments_self]
      exact revise_ne_nil_of_source hk.symm _
    · rwa [Draft.fragments_setFragments_of_ne d hk]
  keyword_of_join := by
    intro kind f hf
    by_cases hc : kind.clause = k.clause
    · rw [hc, Draft.fragments_setFragments_self, ← hc] at hf
      rcases keyword_of_mem_revise hc.symm hf with hf | hf
      · exact hd.keyword_of_join kind f hf
      · exact hf
    · rw [Draft.fragments_setFragments_of_ne d hc] at hf
      exact hd.keyword_of_join kind f hf

/-- **The draft of a composer is sound**, whatever was asked of it. -/
theorem sound_runAll (rs : List Request) : (runAll fresh rs).draft.Sound :=
  draft_invariant sound_empty (fun _ _ hd hobj => sound_revise hd hobj) rs

/-! ## What is rendered -/

/-- What stands behind the keyword of a clause is visible, once there is something. -/
theorem isBlankText_texts {d : Draft} (hd : d.Sound) {c : Clause} (hne : d.texts c ≠ [])
    (separator : String) :
    Text.isBlankText (String.intercalate separator (d.texts c)) = false := by
  obtain ⟨s, rest, hs⟩ := List.exists_cons_of_ne_nil hne
  have hmem : s ∈ d.texts c := by rw [hs]; exact List.mem_cons_self
  obtain ⟨f, hf, hfs⟩ := List.mem_filterMap.1 hmem
  have hvisible : Text.isBlankText s = false := by
    cases f with
    | text t =>
      obtain rfl : t = s := Option.some.inj hfs
      exact hd.visible c _ hf
    | _ => cases hfs
  rw [hs]
  cases rest with
  | nil => rwa [String.intercalate_singleton]
  | cons t rest =>
    rw [String.intercalate_cons_cons]
    simp [hvisible]

theorem result_render (c : Composer) :
    (render.run c).result = c.draft.statement.mapError .notText := by
  rw [render, Attempt.run_bind_ok (Attempt.run_state c), Outcome.after_nil]
  cases c.draft.statement <;> rfl

theorem segments_runAll (rs : List Request) :
    (runAll fresh rs).draft.segments
      = (runAll fresh rs).draft.plainSegmentsOf Clause.statementOrder :=
  Draft.segmentsOf_eq_plain (sound_runAll rs).source_of_join _

theorem statement_of_allTexts {rs : List Request} (h : (runAll fresh rs).draft.AllTexts) :
    (runAll fresh rs).draft.statement
      = .ok (String.intercalate " " (laidOut (runAll fresh rs).draft.texts) ++ ";") := by
  rw [Draft.statement, segments_runAll, Draft.plainSegmentsOf_statementOrder h]
  rfl

theorem result_render_of_allTexts {rs : List Request}
    (h : (runAll fresh rs).draft.AllTexts) :
    (render.run (runAll fresh rs)).result
      = .ok (String.intercalate " " (laidOut (runAll fresh rs).draft.texts) ++ ";") := by
  rw [result_render, statement_of_allTexts h]
  rfl

/-- **Nothing is lost in rendering.** After any requests to a fresh composer, answered or not, no
fragment is blank, joins come with a table to join to, and the segments are those of a rendering
that knows no condition on joins. So where all fragments are texts, the segments are all of them
laid out, with something to see behind every keyword, and rendering answers with these segments, a
space between two and a semicolon at the end. -/
theorem render_complete (rs : List Request) :
    (∀ c, ∀ f ∈ (runAll fresh rs).draft.fragments c, f.isBlank = false)
      ∧ (∀ c, c.isJoin = true → (runAll fresh rs).draft.fragments c ≠ [] →
          (runAll fresh rs).draft.fragments .source ≠ [])
      ∧ (∀ kind : Join, ∀ f ∈ (runAll fresh rs).draft.fragments kind.clause,
          ∃ rest, f = .text (kind.keyword ++ " " ++ rest) ∧ Text.isBlankText rest = false)
      ∧ (runAll fresh rs).draft.segments
          = (runAll fresh rs).draft.plainSegmentsOf Clause.statementOrder
      ∧ ((runAll fresh rs).draft.AllTexts →
          (runAll fresh rs).draft.segments = .ok (laidOut (runAll fresh rs).draft.texts)
          ∧ (∀ row ∈ layout, (runAll fresh rs).draft.texts row.1 ≠ [] →
              Text.isBlankText (String.intercalate row.2.2 ((runAll fresh rs).draft.texts row.1))
                = false)
          ∧ (render.run (runAll fresh rs)).result
              = .ok (String.intercalate " " (laidOut (runAll fresh rs).draft.texts) ++ ";")) := by
  have hd : (runAll fresh rs).draft.Sound := sound_runAll rs
  refine ⟨hd.visible, hd.source_of_join, hd.keyword_of_join, segments_runAll rs,
    fun htexts => ⟨?_, fun row _ hne => isBlankText_texts hd hne _, ?_⟩⟩
  · rw [segments_runAll, Draft.plainSegmentsOf_statementOrder htexts]
  · exact result_render_of_allTexts htexts

end Composer

end SqlText
