import Mathlib.Data.List.Induction
import Mathlib.Data.List.TakeWhile
import SqlText.Proofs.Composer.Run

/-!
# What a history of calls leaves behind

The fragments of a clause can be read off the history of the calls that concern it, without
following the draft through the run. Of the calls whose arguments are in order

* a clause that is only added to holds what they write, one behind the other;
* `SELECT` holds what was written from the last call on that selects everything;
* `WHERE` holds the conditions from the last one on that was set, and `HAVING` all of them, with
  their connectives in front of all but the first;
* a join clause holds its joins from the first table on that rows are drawn from.

The main statement is `fragments_history`. No other clause has a part in the history of a clause,
save that the joins have to know where the first table came.
-/

namespace SqlText.Composer

/-! ## What a call writes -/

/-- An alias behind a name, unless it is blank. -/
def aliasText (glue : String) (label : Value) : String :=
  if label.isBlank then "" else glue ++ label.toText

/-- A selected column: `` `table`.`column` `` and its alias. -/
def columnText (table column label : Value) : Value :=
  .text ("`" ++ table.toText ++ "`.`" ++ column.toText ++ "`" ++ aliasText " " label)

/-- Several columns of a table, each with its alias. -/
def columnsTexts (table columns aliases : Value) : List Value :=
  match columns.elements? with
  | none => []
  | some names =>
    (names.zip ((labelsFor names aliases).getD [])).map fun p => columnText table p.1 p.2

/-- What a call writes, for as many columns as it names. A condition is written as it is given. -/
def Call.written : Call → List Value
  | .selectAll => [.text "*"]
  | .selectColumn table column label => [columnText table column label]
  | .selectColumns table columns aliases => columnsTexts table columns aliases
  | .selectCode code => [code]
  | .source table label => [.text ("`" ++ table.toText ++ "`" ++ aliasText " AS " label)]
  | .join kind table label test =>
    [.text (kind.keyword ++ " `" ++ table.toText ++ "`" ++ aliasText " AS " label ++ " ON "
      ++ test.toText)]
  | .condition test | .andCondition test | .orCondition test | .having test _ => [test]
  | .groupBy column | .sortBy column => [.text ("`" ++ column.toText ++ "`")]
  | .groupByTableColumn table column | .sortByTableColumn table column =>
    [.text ("`" ++ table.toText ++ "`.`" ++ column.toText ++ "`")]

/-- A condition and the connective it comes with, if it is added to others. -/
def Call.condition? : Call → Option (Value × Value)
  | .condition test => some (.null, test)
  | .andCondition test => some (.text "AND", test)
  | .orCondition test => some (.text "OR", test)
  | .having test connective => some (connective, test)
  | _ => none

/-- **A call whose arguments are in order**: no required one is blank, and columns go together. -/
def Call.inOrder : Call → Bool
  | .selectColumns table columns aliases => (columnsObjections table columns aliases).isEmpty
  | k => k.required.all fun a => !a.1.isBlank

/-! ## Reading a history -/

/-- What is left of a list from the last member with a property on: all of it if there is none. -/
def sinceLast {α : Type} (p : α → Bool) : List α → List α
  | [] => []
  | x :: rest => if rest.any p then sinceLast p rest else x :: rest

/-- Conditions behind one another, each but the first with its connective in front. -/
def chained : List (Value × Value) → List Value
  | [] => []
  | (_, first) :: rest => first :: rest.map fun p => .text (p.1.toText ++ " " ++ p.2.toText)

/-- Conditions without those that cannot be joined to the first. -/
def connected : List (Value × Value) → List (Value × Value)
  | [] => []
  | first :: rest => first :: rest.filter fun p => !p.1.isBlank

/-- The joins of one side, from the first table on that rows are drawn from. -/
def joinsOf (clause : Clause) (ks : List Call) : List Value :=
  ((ks.dropWhile fun k => k.clause ≠ .source).filter fun k => k.clause = clause).flatMap
    Call.written

/-- Whether the call selects everything. -/
def Call.isSelectAll : Call → Bool
  | .selectAll => true
  | _ => false

/-- Whether the call sets the condition on rows. -/
def Call.isCondition : Call → Bool
  | .condition _ => true
  | _ => false

/-- **The fragments of a clause, read off a history** of calls that concern it and are in order. -/
def history (ks : List Call) : Clause → List Value
  | .select => (sinceLast Call.isSelectAll ks).flatMap Call.written
  | .source | .groupBy | .sortBy => ks.flatMap Call.written
  | .innerJoin => joinsOf .innerJoin ks
  | .leftJoin => joinsOf .leftJoin ks
  | .rightJoin => joinsOf .rightJoin ks
  | .filter => chained ((sinceLast Call.isCondition ks).filterMap Call.condition?)
  | .having => chained (connected (ks.filterMap Call.condition?))

/-- A call concerns the clause it is aimed at, and a table to draw rows from concerns the joins. -/
def Call.concerns (clause : Clause) (k : Call) : Bool :=
  k.clause = clause || (clause.isJoin && k.clause = .source)

/-! ## One more call -/

variable {α : Type}

/-- One more member is the last with the property, or comes behind it. -/
theorem sinceLast_concat (p : α → Bool) (xs : List α) (x : α) :
    sinceLast p (xs ++ [x]) = if p x then [x] else sinceLast p xs ++ [x] := by
  induction xs with
  | nil => simp [sinceLast]
  | cons y rest ih =>
    simp only [List.cons_append, sinceLast, List.any_append, List.any_cons, List.any_nil,
      Bool.or_false, ih]
    cases p x <;> cases rest.any p <;> simp

theorem chained_concat (ps : List (Value × Value)) (connective test : Value) :
    chained (ps ++ [(connective, test)]) = extend (chained ps) connective test := by
  cases ps with
  | nil => rfl
  | cons p rest => simp [chained, extend, Draft.joined]

/-- One more condition goes behind the others if it can be joined to them. -/
theorem chained_connected_concat (ps : List (Value × Value)) (connective test : Value) :
    chained (connected (ps ++ [(connective, test)]))
      = if chained (connected ps) = [] ∨ connective.isBlank = false
        then extend (chained (connected ps)) connective test else chained (connected ps) := by
  cases ps with
  | nil => rfl
  | cons p rest =>
    cases h : connective.isBlank <;> simp [connected, chained, extend, Draft.joined, h]

/-- One more join counts if a table came before. -/
theorem joinsOf_concat {clause : Clause} (hclause : clause ≠ .source) (ks : List Call) {k : Call}
    (hk : k.clause = clause) :
    joinsOf clause (ks ++ [k])
      = if ∃ s ∈ ks, s.clause = .source then joinsOf clause ks ++ k.written
        else joinsOf clause ks := by
  have hnil : (ks.dropWhile fun k => k.clause ≠ .source) = [] ↔ ¬ ∃ s ∈ ks, s.clause = .source := by
    simp [List.dropWhile_eq_nil_iff]
  unfold joinsOf
  rw [List.dropWhile_append]
  by_cases hsource : ∃ s ∈ ks, s.clause = .source
  · rw [if_pos hsource, if_neg (by rw [List.isEmpty_iff, hnil]; exact not_not_intro hsource)]
    simp [hk]
  · rw [if_neg hsource, if_pos (List.isEmpty_iff.2 (hnil.2 hsource)), hnil.2 hsource]
    simp [hk, hclause]

/-- One more table changes none of the joins. -/
theorem joinsOf_concat_source {clause : Clause} (hclause : clause ≠ .source) (ks : List Call)
    {k : Call} (hk : k.clause = .source) : joinsOf clause (ks ++ [k]) = joinsOf clause ks := by
  unfold joinsOf
  rw [List.dropWhile_append]
  split
  · next hnone =>
    rw [List.isEmpty_iff.1 hnone]
    simp [hk, hclause.symm]
  · simp [hk, hclause.symm]

/-! ## Calls and what they write -/

theorem tableColumn_eq (table column : Value) :
    tableColumn table column = "`" ++ table.toText ++ "`.`" ++ column.toText ++ "`" := by
  unfold tableColumn quoteIdentifier
  rw [show "`.`" = "`" ++ "." ++ "`" from rfl]
  simp only [String.append_assoc]

theorem withAlias_eq (base glue : String) (label : Value) :
    withAlias base glue label = base ++ aliasText glue label := by
  unfold withAlias aliasText
  split <;> simp [String.append_assoc]

theorem text_columnFragment (table column label : Value) :
    Value.text (columnFragment table column label) = columnText table column label := by
  rw [columnFragment, withAlias_eq, tableColumn_eq, columnText]

theorem columnsFragments_eq_texts (table columns aliases : Value) :
    columnsFragments table columns aliases = columnsTexts table columns aliases := by
  unfold columnsFragments columnsTexts
  cases columns.elements? with
  | none => rfl
  | some names => cases h : labelsFor names aliases <;> simp [h, text_columnFragment]

/-- A call that adds to its clause, and neither resets it nor joins conditions, adds what it
writes. -/
theorem revise_eq_append {k : Call} (hall : k.isSelectAll = false) (hcond : k.condition? = none)
    (fs : List Value) : k.revise fs = fs ++ k.written := by
  cases k with
  | selectColumn table column label =>
    show fs ++ [.text (columnFragment table column label)] = fs ++ [columnText table column label]
    rw [text_columnFragment]
  | selectColumns table columns aliases =>
    show fs ++ columnsFragments table columns aliases = fs ++ columnsTexts table columns aliases
    rw [columnsFragments_eq_texts]
  | source table label =>
    show fs ++ [.text (withAlias (quoteIdentifier table) " AS " label)] = _
    rw [withAlias_eq]
    rfl
  | join kind table label test =>
    show fs ++ [.text (withAlias (kind.keyword ++ " " ++ quoteIdentifier table) " AS " label
      ++ " ON " ++ test.toText)] = _
    rw [withAlias_eq, Call.written, quoteIdentifier, show " `" = " " ++ "`" from rfl]
    simp only [String.append_assoc]
  | groupByTableColumn table column | sortByTableColumn table column =>
    show fs ++ [.text (tableColumn table column)] = _
    rw [tableColumn_eq]
    rfl
  | selectAll => cases hall
  | condition test | andCondition test | orCondition test => cases hcond
  | having test connective => cases hcond
  | _ => rfl

/-- What a draft has to hold for a call in order to go through: a table to join to, and no
conditions on groups before one without a connective. -/
def Call.Admitted (d : Draft) : Call → Prop
  | .join .. => d.fragments .source ≠ []
  | .having _ connective => d.fragments .having = [] ∨ connective.isBlank = false
  | _ => True

/-- A call goes through where it is in order and admitted. -/
theorem objections_eq_nil_iff (d : Draft) (k : Call) :
    k.objections d = [] ↔ k.inOrder = true ∧ k.Admitted d := by
  have hargs : blanks k.required = [] ↔ (k.required.all fun a => !a.1.isBlank) = true := by
    simp [blanks_eq_nil_iff]
  unfold Call.objections
  rw [List.append_eq_nil_iff, hargs]
  cases k with
  | selectColumns table columns aliases =>
    simp [Call.required, Call.laterObjections, Call.inOrder, Call.Admitted]
  | join kind table label test => simp [Call.laterObjections, Call.inOrder, Call.Admitted]
  | having test connective =>
    simp only [Call.laterObjections, Call.inOrder, Call.Admitted, ite_eq_right_iff,
      List.cons_ne_nil, imp_false, ne_eq, Decidable.not_and_iff_or_not, Decidable.not_not,
      Bool.not_eq_true]
  | _ => simp [Call.laterObjections, Call.inOrder, Call.Admitted]

/-! ## The history of a clause, call by call -/

theorem condition?_eq_none {k : Call} (hf : k.clause ≠ .filter) (hh : k.clause ≠ .having) :
    k.condition? = none := by
  cases k <;> first | rfl | exact absurd rfl hf | exact absurd rfl hh

theorem isSelectAll_eq_false {k : Call} (h : k.clause ≠ .select) : k.isSelectAll = false := by
  cases k <;> first | rfl | exact absurd rfl h

theorem eq_selectAll {k : Call} (h : k.isSelectAll = true) : k = .selectAll := by
  cases k <;> first | rfl | cases h

theorem isJoin_clause (kind : Join) : kind.clause.isJoin = true := by
  cases kind <;> rfl

/-- One more call in order does to the history of a selection, of the conditions on rows, or of a
clause that is only added to, what it does to the clause. -/
theorem history_concat {clause : Clause} (hj : clause.isJoin = false) (hh : clause ≠ .having)
    (ks : List Call) {k : Call} (hk : k.clause = clause) :
    history (ks ++ [k]) clause = k.revise (history ks clause) := by
  subst hk
  by_cases hf : k.clause = .filter
  · -- the conditions on rows: a call of the three that may set or extend them
    rw [hf]
    show chained ((sinceLast Call.isCondition (ks ++ [k])).filterMap Call.condition?)
      = k.revise (chained ((sinceLast Call.isCondition ks).filterMap Call.condition?))
    rw [sinceLast_concat]
    cases k with
    | condition test => rfl
    | andCondition test | orCondition test =>
      rw [if_neg (by simp [Call.isCondition]), List.filterMap_append]
      exact chained_concat _ _ test
    | join kind table label test => cases kind <;> cases hf
    | _ => cases hf
  · have hcond := condition?_eq_none hf hh
    by_cases hs : k.clause = .select
    · rw [hs]
      show (sinceLast Call.isSelectAll (ks ++ [k])).flatMap Call.written
        = k.revise ((sinceLast Call.isSelectAll ks).flatMap Call.written)
      rw [sinceLast_concat]
      cases hall : k.isSelectAll with
      | true =>
        rw [eq_selectAll hall]
        rfl
      | false => simp [revise_eq_append hall hcond]
    · rw [revise_eq_append (isSelectAll_eq_false hs) hcond]
      cases hclause : k.clause <;> simp_all [history, Clause.isJoin]

/-- One more condition on groups does to the history what it does to the clause, if it can be
joined to those before it. -/
theorem history_having_concat (ks : List Call) (test connective : Value) :
    history (ks ++ [Call.having test connective]) .having
      = if history ks .having = [] ∨ connective.isBlank = false
        then extend (history ks .having) connective test else history ks .having := by
  show chained (connected ((ks ++ [Call.having test connective]).filterMap Call.condition?)) = _
  rw [List.filterMap_append]
  exact chained_connected_concat (ks.filterMap Call.condition?) connective test

theorem history_of_isJoin {clause : Clause} (h : clause.isJoin = true) (ks : List Call) :
    history ks clause = joinsOf clause ks := by
  cases clause <;> first | rfl | cases h

/-- The fragments of a clause after a call. -/
theorem fragments_draftAfter (d : Draft) (k : Call) (clause : Clause) :
    (draftAfter d k).fragments clause
      = if k.clause = clause ∧ k.objections d = [] then k.revise (d.fragments clause)
        else d.fragments clause := by
  unfold draftAfter
  by_cases hobj : k.objections d = []
  · rw [if_pos hobj]
    by_cases hk : k.clause = clause
    · rw [if_pos ⟨hk, hobj⟩, ← hk, Draft.fragments_setFragments_self]
    · rw [if_neg (fun h => hk h.1), Draft.fragments_setFragments_of_ne d (Ne.symm hk)]
  · rw [if_neg hobj, if_neg (fun h => hobj h.2)]

/-- The calls of a history that concern a clause and are in order. -/
def relevant (clause : Clause) (ks : List Call) : List Call :=
  ks.filter fun k => k.concerns clause && k.inOrder

/-- One more call counts if it concerns the clause and is in order. -/
theorem relevant_concat (clause : Clause) (ks : List Call) (k : Call) :
    relevant clause (ks ++ [k])
      = if k.concerns clause = true ∧ k.inOrder = true then relevant clause ks ++ [k]
        else relevant clause ks := by
  unfold relevant
  rw [List.filter_append]
  cases hcon : k.concerns clause <;> cases hin : k.inOrder <;> simp [hcon, hin]

/-- There is a table to join to where one was asked for with its name in order. -/
theorem history_source_ne_nil_iff {clause : Clause} (h : clause.isJoin = true) (ks : List Call) :
    history (relevant .source ks) .source ≠ [] ↔ ∃ s ∈ relevant clause ks, s.clause = .source := by
  have hwritten : ∀ k : Call, k.clause = .source → k.written ≠ [] := by
    intro k hk
    cases k with
    | source table label => exact List.cons_ne_nil _ _
    | join kind table label test => exact List.cons_ne_nil _ _
    | _ => cases hk
  show (relevant .source ks).flatMap Call.written ≠ [] ↔ _
  rw [ne_eq, List.flatMap_eq_nil_iff]
  constructor
  · intro hall
    by_contra hnone
    refine hall fun k hk => absurd ⟨k, ?_, ?_⟩ hnone
    · simp_all [relevant, Call.concerns, Clause.isJoin]
    · simp_all [relevant, Call.concerns, Clause.isJoin]
  · rintro ⟨s, hs, hsource⟩ hall
    refine hwritten s hsource (hall s ?_)
    simp_all [relevant, Call.concerns]

/-- A call that is aimed at no join clause and not at the conditions on groups is admitted by every
draft. -/
theorem admitted_of_clause {k : Call} (hj : k.clause.isJoin = false) (hh : k.clause ≠ .having)
    (d : Draft) : k.Admitted d := by
  cases k with
  | join kind table label test => rw [Call.clause, isJoin_clause] at hj; cases hj
  | having test connective => exact absurd rfl hh
  | _ => trivial

/-- A call in order adds to the history of its own clause what it does to the clause. -/
theorem history_own {d : Draft} {ks : List Call}
    (ih : ∀ clause, d.fragments clause = history (relevant clause ks) clause) {k : Call}
    (hin : k.inOrder = true) :
    history (relevant k.clause ks ++ [k]) k.clause
      = if k.objections d = [] then k.revise (history (relevant k.clause ks) k.clause)
        else history (relevant k.clause ks) k.clause := by
  have hobj : k.objections d = [] ↔ k.Admitted d := by
    rw [objections_eq_nil_iff]
    exact and_iff_right hin
  -- a join waits for the first table and a condition on groups for its connective; nothing else
  -- that is in order can fail
  cases k with
  | join kind table label test =>
    have hj : kind.clause.isJoin = true := isJoin_clause kind
    have hne : kind.clause ≠ .source := by cases kind <;> decide
    have hsource : (Call.join kind table label test).Admitted d
        ↔ ∃ s ∈ relevant kind.clause ks, s.clause = .source := by
      rw [← history_source_ne_nil_iff hj, ← ih]
      rfl
    show history (relevant kind.clause ks ++ [Call.join kind table label test]) kind.clause
      = if _ then Call.revise (history (relevant kind.clause ks) kind.clause) _
        else history (relevant kind.clause ks) kind.clause
    rw [history_of_isJoin hj, history_of_isJoin hj, joinsOf_concat hne _ rfl,
      revise_eq_append rfl rfl]
    exact if_congr (hsource.symm.trans hobj.symm) rfl rfl
  | having test connective =>
    show history (relevant .having ks ++ [Call.having test connective]) .having
      = if _ then extend (history (relevant .having ks) .having) connective test
        else history (relevant .having ks) .having
    rw [history_having_concat, ← ih]
    exact if_congr hobj.symm rfl rfl
  | _ =>
    rw [if_pos (hobj.2 (admitted_of_clause rfl (by simp [Call.clause]) d))]
    exact history_concat rfl (by simp [Call.clause]) _ rfl

/-- A call that is not aimed at a clause adds nothing to the history of the clause. -/
theorem history_other {clause : Clause} {k : Call} (hk : k.clause ≠ clause)
    (hcon : k.concerns clause = true) (ks : List Call) :
    history (ks ++ [k]) clause = history ks clause := by
  have hsource : clause.isJoin = true ∧ k.clause = .source := by
    simpa [Call.concerns, hk] using hcon
  rw [history_of_isJoin hsource.1, history_of_isJoin hsource.1]
  exact joinsOf_concat_source (fun h => hk (hsource.2.trans h.symm)) ks hsource.2

/-- **Call by call, the fragments of a clause are those of its history.** -/
theorem fragments_foldl (ks : List Call) (clause : Clause) :
    (ks.foldl draftAfter .empty).fragments clause = history (relevant clause ks) clause := by
  induction ks using List.reverseRecOn generalizing clause with
  | nil => cases clause <;> rfl
  | append_singleton ks k ih =>
    rw [List.foldl_append, List.foldl_cons, List.foldl_nil, fragments_draftAfter,
      relevant_concat, ih]
    -- a call out of order changes nothing; one in order changes its own clause, and of the other
    -- histories only those of the joins take notice of it, if it is a table
    by_cases hin : k.inOrder = true
    · by_cases hk : k.clause = clause
      · subst hk
        have hcon : k.concerns k.clause = true := by simp [Call.concerns]
        have hrel : (if k.concerns k.clause = true ∧ k.inOrder = true
            then relevant k.clause ks ++ [k] else relevant k.clause ks)
              = relevant k.clause ks ++ [k] := if_pos ⟨hcon, hin⟩
        rw [hrel, history_own ih hin]
        exact if_congr (and_iff_right rfl) rfl rfl
      · rw [if_neg (fun h => hk h.1)]
        split
        · next hcon => exact (history_other hk hcon.1 _).symm
        · rfl
    · have hobj : k.objections (ks.foldl draftAfter .empty) ≠ [] :=
        fun h => hin ((objections_eq_nil_iff _ k).1 h).1
      rw [if_neg (fun h => hobj h.2), if_neg (fun h => hin h.2)]

/-- **What a history of calls leaves behind.** After any requests to a fresh composer, answered or
not, the fragments of a clause are read off the calls that concern the clause and are in order;
and a call that is in order is one that goes through, but for a join before the first table and a
condition on groups that has no connective. -/
theorem fragments_history (rs : List Request) (clause : Clause) :
    (runAll fresh rs).draft.fragments clause = history (relevant clause (callsOf rs)) clause
      ∧ ∀ (k : Call) (c : Composer),
          ((perform k).run c).result = .ok () ↔ k.inOrder = true ∧ k.Admitted c.draft := by
  refine ⟨?_, fun k c => ?_⟩
  · rw [draft_runAll]
    exact fragments_foldl (callsOf rs) clause
  · rw [← objections_eq_nil_iff, run_perform]
    cases k.objections c.draft <;> simp [outcomeOf]

end SqlText.Composer
