import SqlText.Proofs.Composer.History
import SqlText.Proofs.Composer.Sound
import SqlText.Proofs.Statement.References

/-!
# Statements that tell what they were made of

The calls that name tables and columns, and nothing else, write references (`Reference`). A
statement made by such calls alone can be read back, whatever the names are, as long as there is no
backtick in them: **two composers that render the same statement hold the same fragments, and the
names behind the fragments are the same** (`render_unambiguous`).

A call with a blank name is refused, and so is one with more aliases than columns. Such a call
leaves no reference behind, and the statement does not tell whether there was one.
-/

namespace SqlText.Composer

/-! ## Calls that name tables and columns -/

/-- A name that can be read back: a text without a backtick. -/
def IsPlainName (v : Value) : Prop := ∃ s, v = .text s ∧ '`' ∉ s.toList

/-- **A call that names tables and columns**, by plain names and without an alias. -/
def Call.Structural : Call → Prop
  | .selectAll => True
  | .selectColumn table column label =>
    IsPlainName table ∧ IsPlainName column ∧ label.isBlank = true
  | .selectColumns table columns aliases =>
    IsPlainName table ∧ ∀ names, columns.elements? = some names →
      (∀ n ∈ names, IsPlainName n) ∧
        ∀ labels, labelsFor names aliases = some labels → ∀ l ∈ labels, l.isBlank = true
  | .source table label => IsPlainName table ∧ label.isBlank = true
  | .groupBy column | .sortBy column => IsPlainName column
  | .groupByTableColumn table column | .sortByTableColumn table column =>
    IsPlainName table ∧ IsPlainName column
  | _ => False

/-- What several columns refer to. -/
def columnsReferences (table columns aliases : Value) : List Reference :=
  match columns.elements? with
  | none => []
  | some names =>
    (names.zip ((labelsFor names aliases).getD [])).map fun p =>
      .column table.toText p.1.toText

/-- What a call refers to, for as many columns as it names. -/
def Call.references : Call → List Reference
  | .selectAll => [.all]
  | .selectColumn table column _ => [.column table.toText column.toText]
  | .selectColumns table columns aliases => columnsReferences table columns aliases
  | .source table _ => [.name table.toText]
  | .groupBy column | .sortBy column => [.name column.toText]
  | .groupByTableColumn table column | .sortByTableColumn table column =>
    [.column table.toText column.toText]
  | _ => []

/-- **What a clause refers to** after some calls: what those refer to that are aimed at it and in
order, from the last one on that selects everything. -/
def referencesOf (ks : List Call) (clause : Clause) : List Reference :=
  (sinceLast Call.isSelectAll (ks.filter fun k => k.clause = clause && k.inOrder)).flatMap
    Call.references

variable {ks ls : List Call} {k : Call}

theorem aliasText_of_isBlank {label : Value} (h : label.isBlank = true) (glue : String) :
    aliasText glue label = "" := if_pos h

theorem columnText_of_isBlank {label : Value} (h : label.isBlank = true) (table column : Value) :
    columnText table column label = .text (Reference.column table.toText column.toText).text := by
  rw [columnText, aliasText_of_isBlank h, String.append_empty]
  rfl

/-- Several columns without aliases are written as references. -/
theorem columnsTexts_eq_references {table columns aliases : Value}
    (h : ∀ names labels, columns.elements? = some names → labelsFor names aliases = some labels →
      ∀ l ∈ labels, l.isBlank = true) :
    columnsTexts table columns aliases
      = (columnsReferences table columns aliases).map fun r => .text r.text := by
  unfold columnsTexts columnsReferences
  cases hnames : columns.elements? with
  | none => rfl
  | some names =>
    show (names.zip _).map _ = ((names.zip _).map _).map _
    rw [List.map_map]
    refine List.map_congr_left fun p hp => ?_
    cases hlabels : labelsFor names aliases with
    | none => simp [hlabels] at hp
    | some labels =>
      rw [hlabels] at hp
      exact columnText_of_isBlank (h names labels hnames hlabels p.2 (List.of_mem_zip hp).2) _ _

/-- Such a call writes what it refers to. -/
theorem written_eq_references (hk : k.Structural) :
    k.written = k.references.map fun r => .text r.text := by
  cases k with
  | selectAll | groupBy column | sortBy column | groupByTableColumn table column
  | sortByTableColumn table column => rfl
  | selectColumn table column label =>
    show [columnText table column label] = _
    rw [columnText_of_isBlank hk.2.2]
    rfl
  | source table label =>
    show [Value.text ("`" ++ table.toText ++ "`" ++ aliasText " AS " label)] = _
    rw [aliasText_of_isBlank hk.2, String.append_empty]
    rfl
  | selectColumns table columns aliases =>
    exact columnsTexts_eq_references fun names labels hnames => (hk.2 names hnames).2 labels
  | _ => cases hk

theorem IsPlainName.tick_notMem {v : Value} (h : IsPlainName v) : '`' ∉ v.toText.toList := by
  obtain ⟨s, rfl, hs⟩ := h
  exact hs

/-- Such a call refers to plain names. -/
theorem plain_of_mem_references (hk : k.Structural) : ∀ r ∈ k.references, r.Plain := by
  cases k with
  | selectAll => simp [Call.references, Reference.Plain]
  | selectColumn table column label =>
    simpa [Call.references, Reference.Plain] using ⟨hk.1.tick_notMem, hk.2.1.tick_notMem⟩
  | source table label => simpa [Call.references, Reference.Plain] using hk.1.tick_notMem
  | groupBy column | sortBy column =>
    simpa [Call.references, Reference.Plain] using IsPlainName.tick_notMem hk
  | groupByTableColumn table column | sortByTableColumn table column =>
    simpa [Call.references, Reference.Plain] using ⟨hk.1.tick_notMem, hk.2.tick_notMem⟩
  | selectColumns table columns aliases =>
    intro r hr
    show r.Plain
    unfold Call.references columnsReferences at hr
    cases hnames : columns.elements? with
    | none => simp [hnames] at hr
    | some names =>
      simp only [hnames] at hr
      obtain ⟨p, hp, rfl⟩ := List.mem_map.1 hr
      exact ⟨hk.1.tick_notMem, ((hk.2 names hnames).1 p.1 (List.of_mem_zip hp).1).tick_notMem⟩
  | _ => cases hk

theorem clause_mem_naming (hk : k.Structural) : k.clause ∈ Clause.naming := by
  cases k with
  | join kind table label test => cases hk
  | condition test | andCondition test | orCondition test => cases hk
  | having test connective => cases hk
  | _ => simp [Call.clause, Clause.naming]

/-- Such a call goes through where it is in order. -/
theorem objections_eq_nil_iff_inOrder (hk : k.Structural) (d : Draft) :
    k.objections d = [] ↔ k.inOrder = true := by
  have hadmitted : k.Admitted d := by
    cases k with
    | join kind table label test => cases hk
    | having test connective => cases hk
    | _ => trivial
  rw [objections_eq_nil_iff]
  exact and_iff_left hadmitted

/-- What such a call makes of a clause that holds references. -/
theorem revise_references (hk : k.Structural) (rs : List Reference) :
    k.revise (rs.map fun r => .text r.text)
      = (if k.isSelectAll then [.all] else rs ++ k.references).map fun r => Value.text r.text := by
  cases hall : k.isSelectAll with
  | true =>
    rw [eq_selectAll hall]
    rfl
  | false =>
    have hcond : k.condition? = none := by cases k <;> first | rfl | cases hk
    rw [revise_eq_append hall hcond, written_eq_references hk]
    simp

/-! ## What a clause refers to -/

/-- One more call. -/
theorem referencesOf_concat (ks : List Call) (k : Call) (clause : Clause) :
    referencesOf (ks ++ [k]) clause
      = if k.clause = clause ∧ k.inOrder = true then
          if k.isSelectAll then [.all] else referencesOf ks clause ++ k.references
        else referencesOf ks clause := by
  unfold referencesOf
  rw [List.filter_append]
  by_cases hk : k.clause = clause ∧ k.inOrder = true
  · rw [if_pos hk, List.filter_cons_of_pos (by simpa using hk), List.filter_nil, sinceLast_concat]
    cases hall : k.isSelectAll with
    | true =>
      rw [eq_selectAll hall]
      rfl
    | false => simp
  · rw [if_neg hk, List.filter_cons_of_neg (by simpa using hk), List.filter_nil, List.append_nil]

/-- **Calls that name tables and columns leave their references behind.** -/
theorem fragments_references (hks : ∀ k ∈ ks, k.Structural) (clause : Clause) :
    (ks.foldl draftAfter .empty).fragments clause
      = (referencesOf ks clause).map fun r => .text r.text := by
  induction ks using List.reverseRecOn with
  | nil => cases clause <;> rfl
  | append_singleton ks k ih =>
    have hk : k.Structural := hks k (by simp)
    have ih := ih fun k hk => hks k (List.mem_append_left _ hk)
    -- what is counted and what goes through is the same: no draft stands in the way of these calls
    have hobj := objections_eq_nil_iff_inOrder hk (ks.foldl draftAfter .empty)
    rw [List.foldl_append, List.foldl_cons, List.foldl_nil, fragments_draftAfter,
      referencesOf_concat, ih]
    by_cases hcounts : k.clause = clause ∧ k.inOrder = true
    · rw [if_pos ⟨hcounts.1, hobj.2 hcounts.2⟩, if_pos hcounts, revise_references hk]
    · rw [if_neg fun h => hcounts ⟨h.1, hobj.1 h.2⟩, if_neg hcounts]

/-- What is left from the last member on was there before. -/
theorem mem_of_mem_sinceLast {α : Type} {p : α → Bool} {xs : List α} {x : α}
    (h : x ∈ sinceLast p xs) : x ∈ xs := by
  induction xs with
  | nil => exact h
  | cons y rest ih =>
    rw [sinceLast] at h
    split at h
    · exact List.mem_cons_of_mem _ (ih h)
    · exact h

theorem exists_of_mem_referencesOf {clause : Clause} {r : Reference}
    (hr : r ∈ referencesOf ks clause) : ∃ k ∈ ks, k.clause = clause ∧ r ∈ k.references := by
  obtain ⟨k, hk, hr⟩ := List.mem_flatMap.1 hr
  obtain ⟨hmem, hclause⟩ := List.mem_filter.1 (mem_of_mem_sinceLast hk)
  exact ⟨k, hmem, by simpa using (Bool.and_eq_true_iff.1 hclause).1, hr⟩

theorem plain_of_mem_referencesOf (hks : ∀ k ∈ ks, k.Structural) (clause : Clause) :
    ∀ r ∈ referencesOf ks clause, r.Plain := by
  intro r hr
  obtain ⟨k, hk, -, hrk⟩ := exists_of_mem_referencesOf hr
  exact plain_of_mem_references (hks k hk) r hrk

theorem referencesOf_eq_nil (hks : ∀ k ∈ ks, k.Structural) :
    ∀ clause ∉ Clause.naming, referencesOf ks clause = [] := by
  intro clause hclause
  refine List.eq_nil_iff_forall_not_mem.2 fun r hr => ?_
  obtain ⟨k, hk, rfl, -⟩ := exists_of_mem_referencesOf hr
  exact hclause (clause_mem_naming (hks k hk))

/-! ## Statements -/

theorem draft_runAll_calls (ks : List Call) :
    (runAll fresh (ks.map .call)).draft = ks.foldl draftAfter .empty := by
  have hcalls : callsOf (ks.map Request.call) = ks := by
    simp [callsOf, List.filterMap_map, Function.comp_def, Request.call?]
  rw [draft_runAll, hcalls]
  rfl

theorem texts_references (hks : ∀ k ∈ ks, k.Structural) :
    (runAll fresh (ks.map .call)).draft.texts
      = fun clause => (referencesOf ks clause).map Reference.text := by
  funext clause
  rw [Draft.texts, draft_runAll_calls, fragments_references hks, List.filterMap_map]
  simp [Function.comp_def, Value.asText?]

/-- Calls that name tables and columns have their statement rendered. -/
theorem result_render_references (hks : ∀ k ∈ ks, k.Structural) :
    (render.run (runAll fresh (ks.map .call))).result
      = .ok (referenceStatement (referencesOf ks)) := by
  have htexts : (runAll fresh (ks.map .call)).draft.AllTexts := by
    intro clause f hf
    rw [draft_runAll_calls, fragments_references hks] at hf
    obtain ⟨r, -, rfl⟩ := List.mem_map.1 hf
    exact ⟨r.text, rfl⟩
  rw [result_render_of_allTexts htexts, texts_references hks]
  rfl

/-- **A statement of names tells what it was made of.** Calls that name tables and columns, by
names without a backtick and without aliases, leave their references behind and have a statement
rendered; and where two such runs of calls have the same statement rendered, the fragments of every
clause are the same, and so are the names behind them. -/
theorem render_unambiguous (hks : ∀ k ∈ ks, k.Structural) (hls : ∀ k ∈ ls, k.Structural) :
    (∀ clause, (runAll fresh (ks.map .call)).draft.fragments clause
        = (referencesOf ks clause).map fun r => .text r.text)
      ∧ (∃ s, (render.run (runAll fresh (ks.map .call))).result = .ok s)
      ∧ ((render.run (runAll fresh (ks.map .call))).result
            = (render.run (runAll fresh (ls.map .call))).result →
          (runAll fresh (ks.map .call)).draft.snapshot
              = (runAll fresh (ls.map .call)).draft.snapshot
            ∧ ∀ clause, referencesOf ks clause = referencesOf ls clause) := by
  refine ⟨fun clause => ?_, ⟨_, result_render_references hks⟩, fun h => ?_⟩
  · rw [draft_runAll_calls, fragments_references hks]
  · rw [result_render_references hks, result_render_references hls] at h
    have hrefs : referencesOf ks = referencesOf ls :=
      references_of_statement (plain_of_mem_referencesOf hks) (plain_of_mem_referencesOf hls)
        (referencesOf_eq_nil hks) (referencesOf_eq_nil hls) (Except.ok.inj h)
    refine ⟨?_, fun clause => by rw [hrefs]⟩
    have hdraft : (runAll fresh (ks.map .call)).draft = (runAll fresh (ls.map .call)).draft := by
      refine Draft.ext_fragments fun clause => ?_
      rw [draft_runAll_calls, draft_runAll_calls, fragments_references hks,
        fragments_references hls, hrefs]
    rw [hdraft]

/-- Columns selected one by one or together, before their table or after it, under names that hold a
comma and a clause: one statement, one snapshot, the same names. -/
theorem render_unambiguous_columns :
    let ks : List Call := [.selectColumn (.text "t") (.text "a, b") .null,
      .selectColumn (.text "t") (.text "FROM") .null, .source (.text "t; SORT BY") .null]
    let ls : List Call := [.source (.text "t; SORT BY") .null, .selectColumns (.text "t")
      (.list [.text "a, b", .text "FROM"]) .null]
    (∀ k ∈ ks, k.Structural) ∧ (∀ k ∈ ls, k.Structural)
      ∧ (render.run (runAll fresh (ks.map .call))).result
          = (render.run (runAll fresh (ls.map .call))).result
      ∧ (runAll fresh (ks.map .call)).draft.snapshot = (runAll fresh (ls.map .call)).draft.snapshot
      ∧ ∀ clause, referencesOf ks clause = referencesOf ls clause := by
  intro ks ls
  have hname : ∀ s : String, '`' ∉ s.toList → IsPlainName (.text s) := fun s hs => ⟨s, rfl, hs⟩
  have ht := hname "t" (by decide)
  have ha := hname "a, b" (by decide)
  have hf := hname "FROM" (by decide)
  have hs := hname "t; SORT BY" (by decide)
  have hks : ∀ k ∈ ks, k.Structural := by
    simp [ks, Call.Structural, ht, ha, hf, hs, Value.isBlank]
  have hls : ∀ k ∈ ls, k.Structural := by
    simp [ls, Call.Structural, ht, ha, hf, hs, Value.isBlank, Value.elements?, labelsFor]
  have hrefs : referencesOf ks = referencesOf ls := by
    funext clause
    cases clause <;> decide
  have hrender : (render.run (runAll fresh (ks.map .call))).result
      = (render.run (runAll fresh (ls.map .call))).result := by
    rw [result_render_references hks, result_render_references hls, hrefs]
  exact ⟨hks, hls, hrender, (render_unambiguous hks hls).2.2 hrender⟩

end SqlText.Composer
