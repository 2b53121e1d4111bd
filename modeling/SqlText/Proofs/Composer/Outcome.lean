import SqlText.Composer.Request
import SqlText.Proofs.Draft.Edits
import SqlText.Proofs.Visible

/-!
# What a call comes to

A clause call either goes through or is refused, and which of the two it is can be read off its
arguments and the draft it meets. `Call.objections` lists every reason to refuse it, in the order in
which the call comes to them; `Call.revise` is what a call that goes through makes of the fragments
of its clause. **`run_perform` says that this is all a call does**: with no objection it revises
its own clause and says nothing, and with some it is refused for the first, reports it, and leaves
the composer as it was.

The call that selects several columns adds them one by one before it finds out that one of them is
refused. That it too leaves the composer as it was is due to the rollback alone: what the columns
before the refused one added (`run_selectEach_blank`) is just what the rollback drops.
-/

namespace SqlText.Composer

/-! ## Objections -/

/-- The required arguments of a call with their roles, in the order in which they are checked. -/
def Call.required : Call → List (Value × Role)
  | .selectAll | .selectColumns .. => []
  | .selectColumn table column _ => [(table, .selectTable), (column, .selectColumn)]
  | .selectCode code => [(code, .selectCode)]
  | .source table _ => [(table, .sourceTable)]
  | .join _ table _ test => [(table, .joinTable), (test, .joinCondition)]
  | .condition test => [(test, .condition)]
  | .andCondition test => [(test, .andCondition)]
  | .orCondition test => [(test, .orCondition)]
  | .groupBy column => [(column, .groupColumn)]
  | .groupByTableColumn table column => [(table, .groupTable), (column, .groupColumn)]
  | .having test _ => [(test, .havingCondition)]
  | .sortBy column => [(column, .sortColumn)]
  | .sortByTableColumn table column => [(table, .sortTable), (column, .sortColumn)]

/-- The refusals that the blank ones among some arguments call for. -/
def blanks (args : List (Value × Role)) : List Refusal :=
  (args.filter fun a => a.1.isBlank).map fun a => .blank a.2

/-- The aliases of several columns, if they are a collection: null stands for no alias for any. -/
def labelsFor (names : List Value) : Value → Option (List Value)
  | .null => some (names.map fun _ => .null)
  | v => v.elements?

/-- The reasons to refuse columns of a table, listed, with as many aliases: its name and theirs. -/
def pairsObjections (table : Value) (names : List Value) : List Refusal :=
  (if names ≠ [] ∧ table.isBlank = true then [.columns (.blank .selectTable)] else [])
    ++ (if names.any Value.isBlank then [.columns (.blank .selectColumn)] else [])

/-- The reasons to refuse several columns of a table. -/
def columnsObjections (table columns aliases : Value) : List Refusal :=
  match columns.elements? with
  | none => [.notCollection columns]
  | some names =>
    match labelsFor names aliases with
    | none => [.notCollection aliases]
    | some labels =>
      if names.length ≠ labels.length then [.lengths names.length labels.length]
      else pairsObjections table names

/-- The reasons to refuse a call beyond its blank arguments: what is wrong with a collection of
columns, no table to join to, no connective before a further condition on groups. -/
def Call.laterObjections (d : Draft) : Call → List Refusal
  | .selectColumns table columns aliases => columnsObjections table columns aliases
  | .join .. => if d.fragments .source = [] then [.joinBeforeSource] else []
  | .having _ connective =>
    if d.fragments .having ≠ [] ∧ connective.isBlank = true then [.edit (.blankConnective .having)]
    else []
  | _ => []

/-- **The reasons to refuse a call** that meets a draft, in the order in which the call comes to
them. -/
def Call.objections (d : Draft) (k : Call) : List Refusal :=
  blanks k.required ++ k.laterObjections d

/-! ## What a call adds -/

/-- The fragments of several columns of a table. -/
def columnsFragments (table columns aliases : Value) : List Value :=
  match columns.elements? with
  | none => []
  | some names =>
    match labelsFor names aliases with
    | none => []
    | some labels =>
      (names.zip labels).map fun p => .text (columnFragment table p.1 p.2)

/-- A condition behind others, or on its own where there are none. -/
def extend (fs : List Value) (connective condition : Value) : List Value :=
  if fs = [] then [condition] else fs ++ [Draft.joined connective condition]

/-- **What a call makes of the fragments of its clause** if it goes through. -/
def Call.revise (fs : List Value) : Call → List Value
  | .selectAll => [.text "*"]
  | .selectColumn table column label => fs ++ [.text (columnFragment table column label)]
  | .selectColumns table columns aliases => fs ++ columnsFragments table columns aliases
  | .selectCode code => fs ++ [code]
  | .source table label => fs ++ [.text (sourceFragment table label)]
  | .join kind table label test => fs ++ [.text (joinFragment kind table label test)]
  | .condition test => [test]
  | .andCondition test => extend fs (.text "AND") test
  | .orCondition test => extend fs (.text "OR") test
  | .groupBy column | .sortBy column => fs ++ [.text (quoteIdentifier column)]
  | .groupByTableColumn table column | .sortByTableColumn table column =>
    fs ++ [.text (tableColumn table column)]
  | .having test connective => extend fs connective test

/-- A composer with other fragments in one clause. -/
def setFragments (c : Composer) (k : Clause) (fs : List Value) : Composer :=
  { c with draft := c.draft.setFragments k fs }

/-- A composer after a call that goes through. -/
def accept (c : Composer) (k : Call) : Composer :=
  c.setFragments k.clause (k.revise (c.draft.fragments k.clause))

/-- What is said of a refused argument. -/
def rejection (r : Refusal) : Log.Entry :=
  .debug channel ("Rejected clause argument: " ++ r.message)

/-- What a call that is refused reports: nothing of an argument that is no collection, nor of what
the draft itself refuses. -/
def Call.report (k : Call) : Refusal → List Log.Entry
  | .columns cause => k.report cause
  | .notCollection _ | .edit _ => []
  | .joinBeforeSource =>
    match k with
    | .join kind table _ _ =>
      [.debug channel ("Rejected " ++ kind.keyword ++ " of '" ++ table.toText ++ "': "
        ++ Refusal.joinBeforeSource.message)]
    | _ => []
  | r => [rejection r]

/-! ## Steps -/

/-- A step behind the checks of required arguments. -/
def checked (args : List (Value × Role)) (x : Step Unit) : Step Unit :=
  match args with
  | [] => x
  | (v, role) :: rest => do
    require v role
    checked rest x

@[simp] theorem run_reject {α : Type} (r : Refusal) (c : Composer) :
    (reject r : Step α).run c = ⟨.error r, [rejection r], c⟩ := by
  rw [reject, Attempt.run_bind_ok (Attempt.run_write _ c), Attempt.run_refuse]
  rfl

theorem run_require_blank {v : Value} (h : v.isBlank = true) (role : Role) (c : Composer) :
    (require v role).run c = ⟨.error (.blank role), [rejection (.blank role)], c⟩ := by
  rw [require, if_pos h, run_reject]

theorem run_require_visible {v : Value} (h : v.isBlank = false) (role : Role) (c : Composer) :
    (require v role).run c = ⟨.ok (), [], c⟩ := by
  rw [require, if_neg (by simp [h])]
  rfl

theorem run_edit_ok {e : Draft.Edit} {c : Composer} {d : Draft} (h : c.draft.edit e = .ok d) :
    (edit e).run c = ⟨.ok (), [], { c with draft := d }⟩ := by
  rw [edit, Attempt.run_bind_ok (Attempt.run_state c), Outcome.after_nil]
  simp only [h, Attempt.run_update]

theorem run_edit_error {e : Draft.Edit} {c : Composer} {r : Draft.Refusal}
    (h : c.draft.edit e = .error r) : (edit e).run c = ⟨.error (.edit r), [], c⟩ := by
  rw [edit, Attempt.run_bind_ok (Attempt.run_state c), Outcome.after_nil]
  simp only [h, Attempt.run_refuse]

/-- The blank arguments are those that the checks find, the first of them first. -/
theorem run_checked (args : List (Value × Role)) (x : Step Unit) (c : Composer) :
    (checked args x).run c
      = match blanks args with
        | [] => x.run c
        | r :: _ => ⟨.error r, [rejection r], c⟩ := by
  induction args with
  | nil => rfl
  | cons a rest ih =>
    obtain ⟨v, role⟩ := a
    cases h : v.isBlank with
    | false =>
      rw [checked, Attempt.run_bind_ok (run_require_visible h role c), Outcome.after_nil, ih]
      simp [blanks, h]
    | true =>
      rw [checked, Attempt.run_bind_error (run_require_blank h role c)]
      simp [blanks, h]

/-! ## Several columns -/

@[simp] theorem draft_setFragments (c : Composer) (k : Clause) (fs : List Value) :
    (c.setFragments k fs).draft = c.draft.setFragments k fs := rfl

@[simp] theorem setFragments_setFragments (c : Composer) (k : Clause) (fs gs : List Value) :
    (c.setFragments k fs).setFragments k gs = c.setFragments k gs := by
  simp [setFragments]

@[simp] theorem setFragments_fragments (c : Composer) (k : Clause) :
    c.setFragments k (c.draft.fragments k) = c := by
  simp [setFragments]

theorem isBlank_columnFragment (table column label : Value) :
    (Value.text (columnFragment table column label)).isBlank = false :=
  isBlankText_withAlias (isBlankText_tableColumn table column) _ _

theorem selectColumn_eq_checked (table column label : Value) :
    selectColumn table column label
      = checked [(table, .selectTable), (column, .selectColumn)]
          (edit (.add .select (.text (columnFragment table column label)))) := rfl

/-- A column is selected where table and column are named. -/
theorem run_selectColumn_visible {table column : Value} (ht : table.isBlank = false)
    (hc : column.isBlank = false) (label : Value) (c : Composer) :
    (selectColumn table column label).run c
      = ⟨.ok (), [], c.setFragments .select
          (c.draft.fragments .select ++ [.text (columnFragment table column label)])⟩ := by
  rw [selectColumn_eq_checked, run_checked]
  simp only [blanks, List.filter_cons, ht, hc, Bool.false_eq_true, if_false, List.filter_nil,
    List.map_nil]
  exact run_edit_ok (Draft.edit_add (isBlank_columnFragment table column label) _ _)

/-- Named columns of a named table are selected one after another. -/
theorem run_selectEach_visible {table : Value} {pairs : List (Value × Value)}
    (h : ∀ p ∈ pairs, table.isBlank = false ∧ p.1.isBlank = false) (c : Composer) :
    (selectEach table pairs).run c
      = ⟨.ok (), [], c.setFragments .select (c.draft.fragments .select
          ++ pairs.map fun p => .text (columnFragment table p.1 p.2))⟩ := by
  induction pairs generalizing c with
  | nil => simp [selectEach]
  | cons p rest ih =>
    obtain ⟨column, label⟩ := p
    obtain ⟨ht, hc⟩ := h _ List.mem_cons_self
    have hrest := ih (fun p hp => h p (List.mem_cons_of_mem _ hp))
    rw [selectEach, Attempt.run_bind_ok (run_selectColumn_visible ht hc label c), hrest]
    simp

/-- Of a table without a name no column is selected. -/
theorem run_selectEach_unnamed {table : Value} (ht : table.isBlank = true)
    {pairs : List (Value × Value)} (hne : pairs ≠ []) (c : Composer) :
    (selectEach table pairs).run c
      = ⟨.error (.blank .selectTable), [rejection (.blank .selectTable)], c⟩ := by
  obtain ⟨⟨column, label⟩, rest, rfl⟩ := List.exists_cons_of_ne_nil hne
  rw [selectEach, Attempt.run_bind_error (t := c) (e := .blank .selectTable)
    (w := [rejection (.blank .selectTable)])]
  rw [selectColumn_eq_checked, run_checked]
  simp [blanks, ht]

/-- A column without a name refuses the whole, **after** the columns before it were added. -/
theorem run_selectEach_blank {table : Value} (ht : table.isBlank = false)
    {pairs : List (Value × Value)} (h : ∃ p ∈ pairs, p.1.isBlank = true) (c : Composer) :
    ∃ added, (selectEach table pairs).run c
      = ⟨.error (.blank .selectColumn), [rejection (.blank .selectColumn)],
          c.setFragments .select (c.draft.fragments .select ++ added)⟩ := by
  induction pairs generalizing c with
  | nil => simp at h
  | cons p rest ih =>
    obtain ⟨column, label⟩ := p
    cases hc : column.isBlank with
    | true =>
      refine ⟨[], ?_⟩
      rw [selectEach, Attempt.run_bind_error (t := c) (e := .blank .selectColumn)
        (w := [rejection (.blank .selectColumn)])]
      · simp
      · rw [selectColumn_eq_checked, run_checked]
        simp [blanks, ht, hc]
    | false =>
      have hrest : ∃ p ∈ rest, p.1.isBlank = true := by simpa [hc] using h
      obtain ⟨added, hadded⟩ := ih hrest
        (c.setFragments .select
          (c.draft.fragments .select ++ [.text (columnFragment table column label)]))
      refine ⟨.text (columnFragment table column label) :: added, ?_⟩
      rw [selectEach, Attempt.run_bind_ok (run_selectColumn_visible ht hc label c), hadded]
      simp

/-- The members of a collection are listed; what is none has no members. -/
theorem run_members (v : Value) (c : Composer) :
    (members v).run c
      = match v.elements? with
        | some vs => ⟨.ok vs, [], c⟩
        | none => ⟨.error (.notCollection v), [], c⟩ := by
  unfold members
  cases v.elements? <;> rfl

theorem run_aliasesFor (names : List Value) (aliases : Value) (c : Composer) :
    (aliasesFor names aliases).run c
      = match labelsFor names aliases with
        | some labels => ⟨.ok labels, [], c⟩
        | none => ⟨.error (.notCollection aliases), [], c⟩ := by
  cases aliases <;> rfl

/-- What was added before a refused column is dropped again. -/
theorem run_rollback {x : Step Unit} {c : Composer} {r : Refusal} {added : List Value}
    (h : x.run c
      = ⟨.error r, [rejection r], c.setFragments .select (c.draft.fragments .select ++ added)⟩) :
    (x.orElse fun r => do
        edit (.truncate .select (c.draft.fragments .select).length)
        Attempt.refuse (.columns r)).run c
      = ⟨.error (.columns r), [rejection r], c⟩ := by
  rw [Attempt.run_orElse_error h, Attempt.run_bind_ok (run_edit_ok rfl), Attempt.run_refuse]
  simp [Draft.truncate, setFragments, Outcome.after]

/-- As many columns as aliases are selected all or none. -/
theorem run_pairs (table : Value) {names labels : List Value}
    (hlen : names.length = labels.length) (k : Call) (c : Composer) :
    ((selectEach table (names.zip labels)).orElse fun r => do
        edit (.truncate .select (c.draft.fragments .select).length)
        Attempt.refuse (.columns r)).run c
      = match pairsObjections table names with
        | [] => ⟨.ok (), [], c.setFragments .select (c.draft.fragments .select
            ++ (names.zip labels).map fun p => .text (columnFragment table p.1 p.2))⟩
        | r :: _ => ⟨.error r, k.report r, c⟩ := by
  have hfst : (names.zip labels).map Prod.fst = names := List.map_fst_zip (Nat.le_of_eq hlen)
  have hmem : ∀ n, n ∈ names ↔ ∃ p ∈ names.zip labels, p.1 = n := by
    intro n
    rw [← List.mem_map, hfst]
  -- without columns the table is not looked at; with a table that has no name the first column
  -- fails, and otherwise the first one without a name does, after those before it went through
  by_cases hne : names = []
  · subst hne
    rw [List.zip_nil_left, Attempt.run_orElse_ok (run_selectEach_visible (by simp) c)]
    simp [pairsObjections]
  cases ht : table.isBlank with
  | true =>
    have hzip : names.zip labels ≠ [] := fun h => hne (by rw [← hfst, h, List.map_nil])
    have hrun : (selectEach table (names.zip labels)).run c
        = ⟨.error (.blank .selectTable), [rejection (.blank .selectTable)],
            c.setFragments .select (c.draft.fragments .select ++ [])⟩ := by
      rw [run_selectEach_unnamed ht hzip c, List.append_nil, setFragments_fragments]
    rw [run_rollback hrun]
    simp [pairsObjections, hne, ht, Call.report]
  | false =>
    cases hblank : names.any Value.isBlank with
    | true =>
      obtain ⟨n, hn, hb⟩ := List.any_eq_true.1 hblank
      obtain ⟨p, hp, rfl⟩ := (hmem n).1 hn
      obtain ⟨added, hadded⟩ := run_selectEach_blank ht ⟨p, hp, hb⟩ c
      rw [run_rollback hadded]
      simp [pairsObjections, ht, hblank, Call.report]
    | false =>
      have hvisible : ∀ p ∈ names.zip labels, table.isBlank = false ∧ p.1.isBlank = false := by
        intro p hp
        have hname : p.1 ∈ names := (hmem p.1).2 ⟨p, hp, rfl⟩
        exact ⟨ht, by simpa using List.any_eq_false.1 hblank p.1 hname⟩
      rw [Attempt.run_orElse_ok (run_selectEach_visible hvisible c)]
      simp [pairsObjections, ht, hblank]

/-- Columns and aliases that are listed are selected, if there are as many of either. -/
theorem run_selectColumns_of_listed {columns aliases : Value} {names labels : List Value}
    (hnames : columns.elements? = some names) (hlabels : labelsFor names aliases = some labels)
    (table : Value) (c : Composer) :
    (selectColumns table columns aliases).run c
      = if names.length = labels.length then
          ((selectEach table (names.zip labels)).orElse fun r => do
            edit (.truncate .select (c.draft.fragments .select).length)
            Attempt.refuse (.columns r)).run c
        else
          ⟨.error (.lengths names.length labels.length),
            [rejection (.lengths names.length labels.length)], c⟩ := by
  have hmembers := run_members columns c
  have haliases := run_aliasesFor names aliases c
  rw [hnames] at hmembers
  rw [hlabels] at haliases
  rw [selectColumns, Attempt.run_bind_ok hmembers, Attempt.run_bind_ok haliases]
  split
  · rw [Attempt.run_bind_ok (Attempt.run_state c)]
    rfl
  · rw [run_reject]
    rfl

/-- **Several columns are selected all or none**: with an objection nothing is changed. -/
theorem run_selectColumns (table columns aliases : Value) (c : Composer) :
    (selectColumns table columns aliases).run c
      = match columnsObjections table columns aliases with
        | [] => ⟨.ok (), [], c.setFragments .select
            (c.draft.fragments .select ++ columnsFragments table columns aliases)⟩
        | r :: _ => ⟨.error r, (Call.selectColumns table columns aliases).report r, c⟩ := by
  have hmembers := run_members columns c
  cases hnames : columns.elements? with
  | none =>
    rw [hnames] at hmembers
    rw [selectColumns, Attempt.run_bind_error hmembers]
    simp [columnsObjections, hnames, Call.report]
  | some names =>
    rw [hnames] at hmembers
    cases hlabels : labelsFor names aliases with
    | none =>
      have haliases := run_aliasesFor names aliases c
      rw [hlabels] at haliases
      rw [selectColumns, Attempt.run_bind_ok hmembers, Attempt.run_bind_error haliases]
      simp [columnsObjections, hnames, hlabels, Call.report, Outcome.after]
    | some labels =>
      rw [run_selectColumns_of_listed hnames hlabels]
      by_cases hlen : names.length = labels.length
      · rw [if_pos hlen, run_pairs table hlen (.selectColumns table columns aliases) c]
        simp only [columnsObjections, columnsFragments, hnames, hlabels, hlen, ne_eq,
          not_true_eq_false, if_false]
      · simp [columnsObjections, hnames, hlabels, hlen, Call.report]

/-! ## Every call -/

theorem blanks_eq_nil_iff {args : List (Value × Role)} :
    blanks args = [] ↔ ∀ a ∈ args, a.1.isBlank = false := by
  rw [blanks, List.map_eq_nil_iff, List.filter_eq_nil_iff]
  simp only [Bool.not_eq_true]

theorem report_of_mem_blanks {args : List (Value × Role)} {r : Refusal} (h : r ∈ blanks args)
    (k : Call) : k.report r = [rejection r] := by
  obtain ⟨a, -, rfl⟩ := List.mem_map.1 h
  rfl

/-- What a call comes to: it is refused for the first of some reasons, or goes through. -/
def outcomeOf (k : Call) (c : Composer) : List Refusal → Outcome Log.Entry Composer Refusal Unit
  | [] => ⟨.ok (), [], c.accept k⟩
  | r :: _ => ⟨.error r, k.report r, c⟩

/-- A call is its checks with something behind them, which is all that is left to follow where no
required argument is blank. -/
theorem run_perform_of_checked {k : Call} {c : Composer} {x : Step Unit}
    (hk : perform k = checked k.required x)
    (hx : (∀ a ∈ k.required, a.1.isBlank = false) →
      x.run c = outcomeOf k c (k.laterObjections c.draft)) :
    (perform k).run c = outcomeOf k c (k.objections c.draft) := by
  rw [hk, Call.objections, run_checked]
  cases hb : blanks k.required with
  | nil => exact hx (blanks_eq_nil_iff.1 hb)
  | cons r rest =>
    have hr : r ∈ blanks k.required := by rw [hb]; exact List.mem_cons_self
    simp only [List.cons_append, outcomeOf, report_of_mem_blanks hr]

/-- A call whose checks are followed by an edit that goes through. -/
theorem run_perform_of_edit {k : Call} {c : Composer} {e : Draft.Edit}
    (hk : perform k = checked k.required (edit e)) (hlater : k.laterObjections c.draft = [])
    (he : (∀ a ∈ k.required, a.1.isBlank = false) →
      c.draft.edit e
        = .ok (c.draft.setFragments k.clause (k.revise (c.draft.fragments k.clause)))) :
    (perform k).run c = outcomeOf k c (k.objections c.draft) :=
  run_perform_of_checked hk fun hb => by rw [hlater, run_edit_ok (he hb)]; rfl

/-- A condition with a connective that is not blank is added, first or further. -/
theorem edit_addJoined_extend {f connective : Value} (hf : f.isBlank = false)
    (hc : connective.isBlank = false) (k : Clause) (d : Draft) :
    d.edit (.addJoined k f connective)
      = .ok (d.setFragments k (extend (d.fragments k) connective f)) := by
  by_cases he : d.fragments k = []
  · rw [Draft.edit_addJoined_first hf _ he, extend, if_pos he]
  · rw [Draft.edit_addJoined_further hf hc he, extend, if_neg he]

theorem isBlank_quoteIdentifier (name : Value) :
    (Value.text (quoteIdentifier name)).isBlank = false :=
  isBlankText_quoteIdentifier name

theorem isBlank_tableColumn (table column : Value) :
    (Value.text (tableColumn table column)).isBlank = false :=
  isBlankText_tableColumn table column

theorem isBlank_sourceFragment (table label : Value) :
    (Value.text (sourceFragment table label)).isBlank = false :=
  isBlankText_withAlias (isBlankText_quoteIdentifier table) _ _

theorem isBlank_joinFragment (kind : Join) (table label test : Value) :
    (Value.text (joinFragment kind table label test)).isBlank = false := by
  have hname : Text.isBlankText (kind.keyword ++ " " ++ quoteIdentifier table) = false := by simp
  show Text.isBlankText (withAlias _ _ _ ++ " ON " ++ test.toText) = false
  simp [isBlankText_withAlias hname]

/-- A join with its arguments in order goes through where there is a table to join to. -/
theorem run_perform_join (kind : Join) (table label test : Value) (c : Composer) :
    (perform (.join kind table label test)).run c
      = outcomeOf (.join kind table label test) c
          (Call.objections c.draft (.join kind table label test)) := by
  refine run_perform_of_checked rfl fun _ => ?_
  rw [Attempt.run_bind_ok (Attempt.run_state c), Outcome.after_nil, Call.laterObjections]
  by_cases he : c.draft.fragments .source = []
  · rw [if_pos (Draft.isEmptyAt_iff.2 he), if_pos he, Attempt.run_bind_ok (Attempt.run_write _ c)]
    rfl
  · rw [if_neg (mt Draft.isEmptyAt_iff.1 he), if_neg he,
      run_edit_ok (Draft.edit_add (isBlank_joinFragment kind table label test) _ _)]
    rfl

/-- A condition on groups goes through as the first, or with a connective. -/
theorem run_perform_having (test connective : Value) (c : Composer) :
    (perform (.having test connective)).run c
      = outcomeOf (.having test connective) c
          (Call.objections c.draft (.having test connective)) := by
  refine run_perform_of_checked rfl fun hb => ?_
  have htest : test.isBlank = false := hb (test, .havingCondition) List.mem_cons_self
  show (edit (.addJoined .having test connective)).run c
    = outcomeOf _ c (if c.draft.fragments .having ≠ [] ∧ connective.isBlank = true then _ else _)
  by_cases he : c.draft.fragments .having = []
  · rw [if_neg (fun h => h.1 he), run_edit_ok (Draft.edit_addJoined_first htest connective he)]
    simp [outcomeOf, accept, setFragments, Call.clause, Call.revise, extend, he]
  · cases hc : connective.isBlank with
    | true =>
      rw [if_pos ⟨he, rfl⟩, run_edit_error (Draft.edit_addJoined_unconnected htest hc he)]
      rfl
    | false =>
      rw [if_neg (by simp), run_edit_ok (edit_addJoined_extend htest hc .having c.draft)]
      rfl

/-- **What a call comes to**: with no objection it revises its clause and reports nothing, and
otherwise it is refused for the first, reports that, and leaves the composer as it was. -/
theorem run_perform (k : Call) (c : Composer) :
    (perform k).run c = outcomeOf k c (k.objections c.draft) := by
  cases k with
  | selectAll => exact run_perform_of_edit rfl rfl fun _ => Draft.edit_replace_singleton rfl _ _
  | selectColumn table column label =>
    exact run_perform_of_edit rfl rfl fun _ =>
      Draft.edit_add (isBlank_columnFragment table column label) _ _
  | selectColumns table columns aliases =>
    show (selectColumns table columns aliases).run c
      = outcomeOf _ c (columnsObjections table columns aliases)
    rw [run_selectColumns]
    cases columnsObjections table columns aliases <;> rfl
  | selectCode code =>
    exact run_perform_of_edit rfl rfl fun h => Draft.edit_add (h _ List.mem_cons_self) _ _
  | source table label =>
    exact run_perform_of_edit rfl rfl fun _ =>
      Draft.edit_add (isBlank_sourceFragment table label) _ _
  | join kind table label test => exact run_perform_join kind table label test c
  | condition test =>
    exact run_perform_of_edit rfl rfl fun h =>
      Draft.edit_replace_singleton (h _ List.mem_cons_self) _ _
  | andCondition test | orCondition test =>
    exact run_perform_of_edit rfl rfl fun h =>
      edit_addJoined_extend (h _ List.mem_cons_self) rfl _ _
  | having test connective => exact run_perform_having test connective c
  | groupBy column | sortBy column =>
    exact run_perform_of_edit rfl rfl fun _ => Draft.edit_add (isBlank_quoteIdentifier column) _ _
  | groupByTableColumn table column | sortByTableColumn table column =>
    exact run_perform_of_edit rfl rfl fun _ =>
      Draft.edit_add (isBlank_tableColumn table column) _ _

/-- **A clause call is answered** as it is performed: it goes through where nothing is objected to,
and otherwise it is refused for the first objection. -/
theorem run_answer_call (k : Call) (c : Composer) :
    (answer (.call k)).run c
      = match k.objections c.draft with
        | [] => ⟨.ok .done, [], c.accept k⟩
        | r :: _ => ⟨.error (.refused r), k.report r, c⟩ := by
  have hmap : ((perform k).mapRefusal Failure.refused).run c
      = (outcomeOf k c (k.objections c.draft)).mapRefusal .refused := by
    rw [Attempt.run_mapRefusal, run_perform]
  show (((perform k).mapRefusal Failure.refused >>= fun _ => pure Reply.done)).run c = _
  cases hobj : k.objections c.draft with
  | nil =>
    rw [hobj] at hmap
    exact Attempt.run_bind_ok hmap
  | cons r rest =>
    rw [hobj] at hmap
    exact Attempt.run_bind_error hmap

end SqlText.Composer
