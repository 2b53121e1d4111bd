import SqlText.Proofs.Composer.Outcome

/-!
# Selecting columns one by one

The call that selects several columns stands for a call for each of them, one after another until
one is refused. **It comes to the same where none is refused.** Where one is, the calls before it
have gone through, and their fragments stay; the one call for all drops them and leaves everything
as it was, with the refusal of the first as its cause and with what that one reported
(`selectColumns_all_or_none`).
-/

namespace SqlText.Composer

/-! ## Calls one after another -/

/-- Performs calls one after another, until one is refused. -/
def performAll : List Call → Step Unit
  | [] => pure ()
  | k :: rest => do
    perform k
    performAll rest

/-- A call that goes through is accepted in silence; one that is refused leaves the composer as it
was. -/
theorem run_perform_cases (k : Call) (c : Composer) :
    (perform k).run c = ⟨.ok (), [], c.accept k⟩
      ∨ ∃ r ∈ k.objections c.draft, (perform k).run c = ⟨.error r, k.report r, c⟩ := by
  rw [run_perform]
  cases k.objections c.draft with
  | nil => exact .inl rfl
  | cons r rest => exact .inr ⟨r, List.mem_cons_self, rfl⟩

/-- **Calls one after another** go through in silence, or there is a first that is refused: those
before it go through, and what it reports is all that is reported. -/
theorem run_performAll_cases (ks : List Call) (c : Composer) :
    (∃ c', (performAll ks).run c = ⟨.ok (), [], c'⟩)
      ∨ ∃ front k back c', ks = front ++ k :: back ∧ (performAll front).run c = ⟨.ok (), [], c'⟩
          ∧ ∃ r ∈ k.objections c'.draft, (perform k).run c' = ⟨.error r, k.report r, c'⟩
            ∧ (performAll ks).run c = ⟨.error r, k.report r, c'⟩ := by
  induction ks generalizing c with
  | nil => exact .inl ⟨c, rfl⟩
  | cons k rest ih =>
    obtain hk | ⟨r, hr, hk⟩ := run_perform_cases k c
    · have hthrough : ∀ ks, (performAll (k :: ks)).run c = (performAll ks).run (c.accept k) :=
        fun ks => Attempt.run_bind_ok hk
      rw [hthrough]
      obtain hrest | ⟨front, k', back, c', rfl, hfront, hk'⟩ := ih (c.accept k)
      · exact .inl hrest
      · exact .inr ⟨k :: front, k', back, c', rfl, (hthrough front).trans hfront, hk'⟩
    · exact .inr ⟨[], k, rest, c, rfl, rfl, r, hr, hk, Attempt.run_bind_error hk⟩

/-- **What is kept by each call that goes through is kept by all of them**, refused or not. -/
theorem performAll_invariant {P : Composer → Prop} {ks : List Call}
    (hkeep : ∀ k ∈ ks, ∀ c, P c → P (c.accept k)) {c : Composer} (hc : P c) :
    P ((performAll ks).run c).state := by
  induction ks generalizing c with
  | nil => exact hc
  | cons k rest ih =>
    obtain hk | ⟨r, -, hk⟩ := run_perform_cases k c
    · rw [performAll, Attempt.run_bind_ok hk]
      exact ih (fun k hk => hkeep k (List.mem_cons_of_mem _ hk))
        (hkeep k List.mem_cons_self c hc)
    · rw [performAll, Attempt.run_bind_error hk]
      exact hc

/-! ## A call for each column -/

/-- A call for each of several columns of a table. -/
def columnCalls (table : Value) (pairs : List (Value × Value)) : List Call :=
  pairs.map fun p => .selectColumn table p.1 p.2

variable {table : Value} {pairs : List (Value × Value)}

/-- Columns are selected by a call for each. -/
theorem selectEach_eq (table : Value) (pairs : List (Value × Value)) :
    selectEach table pairs = performAll (columnCalls table pairs) := by
  induction pairs with
  | nil => rfl
  | cons p rest ih =>
    rw [selectEach, ih]
    rfl

theorem report_of_mem_columnCalls {k : Call} {r : Refusal} {d : Draft}
    (hk : k ∈ columnCalls table pairs) (hr : r ∈ k.objections d) : k.report r = [rejection r] := by
  obtain ⟨p, -, rfl⟩ := List.mem_map.1 hk
  have hblank : r ∈ blanks (Call.selectColumn table p.1 p.2).required := by
    simpa [Call.objections, Call.laterObjections] using hr
  exact report_of_mem_blanks hblank _

/-- **The calls for columns change nothing but what is selected**, and drop nothing of it. -/
theorem state_columnCalls (table : Value) (pairs : List (Value × Value)) (c : Composer) :
    ∃ added, ((performAll (columnCalls table pairs)).run c).state
      = c.setFragments .select (c.draft.fragments .select ++ added) := by
  refine performAll_invariant (P := fun c' => ∃ added,
    c' = c.setFragments .select (c.draft.fragments .select ++ added)) ?_ ⟨[], by simp⟩
  rintro k hk - ⟨added, rfl⟩
  obtain ⟨p, -, rfl⟩ := List.mem_map.1 hk
  refine ⟨added ++ [.text (columnFragment table p.1 p.2)], ?_⟩
  simp [accept, Call.clause, Call.revise]

/-- **Selecting several columns is a call for each, all or none.** Where there are as many names
as aliases, and the calls for the columns go through one after another, the one call for all goes
through in silence and leaves the composer that they leave. Where one of them is refused, the one
call for all is refused for the first of these refusals, reports what was reported of it, and leaves
the composer as it was. Where there are more of either, no column is looked at. Without columns the
table is not looked at. -/
theorem selectColumns_all_or_none (c : Composer) (table columns aliases : Value)
    {names labels : List Value} (hnames : columns.elements? = some names)
    (hlabels : labelsFor names aliases = some labels) :
    let each := columnCalls table (names.zip labels)
    let atOnce := (perform (.selectColumns table columns aliases)).run c
    (names.length ≠ labels.length →
        atOnce = ⟨.error (.lengths names.length labels.length),
          [rejection (.lengths names.length labels.length)], c⟩)
      ∧ (names.length = labels.length →
        (∀ c' w, (performAll each).run c = ⟨.ok (), w, c'⟩ → w = [] ∧ atOnce = ⟨.ok (), [], c'⟩)
        ∧ ∀ r c' w, (performAll each).run c = ⟨.error r, w, c'⟩ →
            (∃ front k back, each = front ++ k :: back
              ∧ (performAll front).run c = ⟨.ok (), [], c'⟩
              ∧ (perform k).run c' = ⟨.error r, w, c'⟩)
            ∧ w = [rejection r]
            ∧ atOnce = ⟨.error (.columns r), w, c⟩
            ∧ (Refusal.columns r).message = "Could not add table column to SELECT clause."
            ∧ (Refusal.columns r).sort = .invalid)
      ∧ (names = [] → labels = [] → atOnce = ⟨.ok (), [], c⟩) := by
  intro each atOnce
  have hatOnce : atOnce = _ := run_selectColumns_of_listed hnames hlabels table c
  refine ⟨fun hlen => by rw [hatOnce, if_neg hlen], fun hlen => ?_, ?_⟩
  · rw [if_pos hlen, selectEach_eq] at hatOnce
    obtain ⟨c', hok⟩ | ⟨front, k, back, c', heach, hfront, r, hr, hk, herror⟩ :=
      run_performAll_cases each c
    · refine ⟨fun c'' w hrun => ?_, fun r c'' w hrun => ?_⟩
      · cases hok.symm.trans hrun
        exact ⟨rfl, hatOnce.trans (Attempt.run_orElse_ok hok)⟩
      · cases hok.symm.trans hrun
    · have hreport : k.report r = [rejection r] := by
        have hmem : k ∈ each := heach ▸ List.mem_append_right front List.mem_cons_self
        exact report_of_mem_columnCalls hmem hr
      have hstate : ∃ added, ((performAll each).run c).state
          = c.setFragments .select (c.draft.fragments .select ++ added) :=
        state_columnCalls table (names.zip labels) c
      rw [herror] at hstate
      obtain ⟨added, rfl⟩ := hstate
      rw [hreport] at hk herror
      refine ⟨fun c'' w hrun => ?_, fun r' c'' w hrun => ?_⟩
      · cases herror.symm.trans hrun
      · cases herror.symm.trans hrun
        exact ⟨⟨front, k, back, heach, hfront, hk⟩, rfl,
          hatOnce.trans (run_rollback herror), rfl, rfl⟩
  · rintro rfl rfl
    rw [hatOnce]
    exact Attempt.run_orElse_ok rfl

/-- A column without a name behind one with a name, on top of a selection of every column: the
refusal is that of the second, and the first is not selected. -/
theorem selectColumns_all_or_none_unnamed :
    let c := fresh.accept .selectAll
    let columns := Value.list [.text "a", .text " "]
    columns.elements? = some [.text "a", .text " "]
      ∧ labelsFor [.text "a", .text " "] .null = some [.null, .null]
      ∧ (perform (.selectColumns (.text "t") columns .null)).run c
        = ⟨.error (.columns (.blank .selectColumn)), [rejection (.blank .selectColumn)], c⟩ := by
  intro c columns
  have hnames : columns.elements? = some [.text "a", .text " "] := rfl
  have hlabels : labelsFor [.text "a", .text " "] .null = some [.null, .null] := rfl
  obtain ⟨-, hequal, -⟩ := selectColumns_all_or_none c (.text "t") columns .null hnames hlabels
  obtain ⟨-, -, hatOnce, -⟩ := (hequal rfl).2 (.blank .selectColumn) _ _ rfl
  exact ⟨hnames, hlabels, hatOnce⟩

end SqlText.Composer
