import SqlText.Proofs.Composer.Outcome

/-!
# When a call is refused

`run_perform` says that a call is refused for the first of its objections. Here that is said the way
a caller sees it: which arguments and which drafts make a call fail, with what sort of refusal, and
what is left behind. The main statement is `perform_refused_exactly`. Two parts of it are about
what does **not** happen: a refused call leaves the composer as it was, and the draft never gets to
refuse a blank fragment itself, since every call has found the blank argument before.
-/

namespace SqlText.Composer

/-- What lies behind a refusal: the refusal itself, or for several columns the one it came from. -/
def Refusal.root : Refusal → Refusal
  | .columns cause => cause.root
  | r => r

/-- **Columns that cannot be selected together**: columns or aliases are no collection, there are
not as many of the one as of the other, or with at least one column the table or some column has
no name. -/
def Unselectable (table columns aliases : Value) : Prop :=
  match columns.elements? with
  | none => True
  | some names =>
    match labelsFor names aliases with
    | none => True
    | some labels =>
      names.length ≠ labels.length
        ∨ (names ≠ [] ∧ (table.isBlank = true ∨ ∃ n ∈ names, n.isBlank = true))

/-- **A call at fault**: a required argument is blank, a further condition on groups has no
connective, a join has no table to join to, or several columns cannot be selected together. -/
def Call.AtFault (d : Draft) (k : Call) : Prop :=
  (∃ a ∈ k.required, a.1.isBlank = true) ∨
    match k with
    | .having _ connective => connective.isBlank = true ∧ d.fragments .having ≠ []
    | .join .. => d.fragments .source = []
    | .selectColumns table columns aliases => Unselectable table columns aliases
    | _ => False

/-! ## Fault and objection -/

/-- As many columns as aliases are objected to where there is one, and it or the table has no
name. -/
theorem pairsObjections_ne_nil_iff (table : Value) (names : List Value) :
    pairsObjections table names ≠ []
      ↔ names ≠ [] ∧ (table.isBlank = true ∨ ∃ n ∈ names, n.isBlank = true) := by
  have hany : names.any Value.isBlank = true ↔ ∃ n ∈ names, n.isBlank = true := List.any_eq_true
  unfold pairsObjections
  by_cases hcol : ∃ n ∈ names, n.isBlank = true
  · obtain ⟨n, hn, hb⟩ := hcol
    have hne : names ≠ [] := List.ne_nil_of_mem hn
    rw [if_pos (hany.2 ⟨n, hn, hb⟩)]
    exact ⟨fun _ => ⟨hne, .inr ⟨n, hn, hb⟩⟩,
      fun _ => List.append_ne_nil_of_right_ne_nil _ (by simp)⟩
  · rw [if_neg (mt hany.1 hcol), List.append_nil]
    by_cases hall : names ≠ [] ∧ table.isBlank = true
    · rw [if_pos hall]
      exact ⟨fun _ => ⟨hall.1, .inl hall.2⟩, fun _ => List.cons_ne_nil _ _⟩
    · rw [if_neg hall]
      exact ⟨fun h => absurd rfl h, fun h => absurd ⟨h.1, h.2.resolve_right hcol⟩ hall⟩

/-- Columns are objected to where they cannot be selected together. -/
theorem columnsObjections_ne_nil_iff (table columns aliases : Value) :
    columnsObjections table columns aliases ≠ [] ↔ Unselectable table columns aliases := by
  unfold columnsObjections Unselectable
  cases columns.elements? with
  | none => simp
  | some names =>
    cases hlabels : labelsFor names aliases with
    | none => simp [hlabels]
    | some labels =>
      by_cases hlen : names.length = labels.length
      · simpa [hlabels, hlen] using pairsObjections_ne_nil_iff table names
      · simp [hlabels, hlen]

theorem blanks_ne_nil_iff (args : List (Value × Role)) :
    blanks args ≠ [] ↔ ∃ a ∈ args, a.1.isBlank = true := by
  rw [ne_eq, blanks_eq_nil_iff]
  simp

/-- **A call meets an objection exactly where it is at fault.** -/
theorem objections_ne_nil_iff (d : Draft) (k : Call) : k.objections d ≠ [] ↔ k.AtFault d := by
  unfold Call.objections Call.AtFault
  rw [← blanks_ne_nil_iff, ne_eq, List.append_eq_nil_iff, Decidable.not_and_iff_or_not]
  refine or_congr Iff.rfl ?_
  cases k with
  | selectColumns table columns aliases => exact columnsObjections_ne_nil_iff table columns aliases
  | join kind table label test => simp [Call.laterObjections]
  | having test connective => simp [Call.laterObjections, and_comm]
  | _ => simp [Call.laterObjections]

/-! ## Result and state -/

theorem result_eq_error_iff (k : Call) (c : Composer) (r : Refusal) :
    ((perform k).run c).result = .error r ↔ (k.objections c.draft).head? = some r := by
  rw [run_perform]
  cases k.objections c.draft <;> simp [outcomeOf]

theorem state_of_refused {k : Call} {c : Composer} {r : Refusal}
    (h : ((perform k).run c).result = .error r) : ((perform k).run c).state = c := by
  rw [run_perform] at h ⊢
  cases hobj : k.objections c.draft with
  | nil => simp [hobj, outcomeOf] at h
  | cons r rest => rfl

theorem refused_iff (k : Call) (c : Composer) :
    (∃ r, ((perform k).run c).result = .error r) ↔ k.AtFault c.draft := by
  simp only [result_eq_error_iff, ← objections_ne_nil_iff]
  cases k.objections c.draft <;> simp

/-! ## Sorts of refusals -/

theorem sort_of_mem_blanks {args : List (Value × Role)} {r : Refusal} (h : r ∈ blanks args) :
    r.sort = .invalid := by
  obtain ⟨a, -, rfl⟩ := List.mem_map.1 h
  rfl

theorem head?_objections (d : Draft) (k : Call) (r : Refusal) :
    (k.objections d).head? = some r
      ↔ (blanks k.required).head? = some r
        ∨ ((∀ a ∈ k.required, a.1.isBlank = false) ∧ (k.laterObjections d).head? = some r) := by
  rw [Call.objections, ← blanks_eq_nil_iff]
  cases blanks k.required <;> simp

/-- A refusal that is not about an unfit argument is a later one, with all arguments in order. -/
theorem head?_objections_of_sort {d : Draft} {k : Call} {r : Refusal} (hr : r.sort ≠ .invalid) :
    (k.objections d).head? = some r
      ↔ (∀ a ∈ k.required, a.1.isBlank = false) ∧ (k.laterObjections d).head? = some r := by
  rw [head?_objections]
  refine or_iff_right fun h => hr (sort_of_mem_blanks (List.mem_of_mem_head? h))

theorem labelsFor_eq_none_iff (names : List Value) (aliases : Value) :
    labelsFor names aliases = none ↔ aliases ≠ .null ∧ aliases.elements? = none := by
  cases aliases <;> simp [labelsFor]

/-- What columns are objected to for: they or their aliases are no collection, there are more of the
one than of the other, or a name is blank. -/
theorem mem_columnsObjections {table columns aliases : Value} {r : Refusal}
    (h : r ∈ columnsObjections table columns aliases) :
    ((∃ v, r = .notCollection v)
        ∧ (columns.elements? = none ∨ (aliases ≠ .null ∧ aliases.elements? = none)))
      ∨ (∃ names labels, r = .lengths names labels) ∨ ∃ role, r = .columns (.blank role) := by
  unfold columnsObjections at h
  split at h
  · next hnames => exact .inl ⟨⟨_, List.mem_singleton.1 h⟩, .inl hnames⟩
  · next names hnames =>
    split at h
    · next hlabels =>
      have hnone := (labelsFor_eq_none_iff names aliases).1 hlabels
      exact .inl ⟨⟨_, List.mem_singleton.1 h⟩, .inr hnone⟩
    · split at h
      · exact .inr (.inl ⟨_, _, List.mem_singleton.1 h⟩)
      · refine .inr (.inr ?_)
        rcases List.mem_append.1 h with h | h
        · exact ⟨.selectTable, List.mem_singleton.1 (List.mem_ite_nil_right.1 h).2⟩
        · exact ⟨.selectColumn, List.mem_singleton.1 (List.mem_ite_nil_right.1 h).2⟩

/-- **What a call is objected to for**: only a join comes too early, only collections of columns
are not of a kind, and no fragment is found blank. -/
theorem mem_objections {d : Draft} {k : Call} {r : Refusal} (h : r ∈ k.objections d) :
    (∃ role, r = .blank role) ∨ r = .edit (.blankConnective .having)
      ∨ ((∃ kind table label test, k = .join kind table label test) ∧ r = .joinBeforeSource)
      ∨ ∃ table columns aliases, k = .selectColumns table columns aliases
          ∧ r ∈ columnsObjections table columns aliases := by
  rcases List.mem_append.1 h with hblank | hlater
  · obtain ⟨a, -, rfl⟩ := List.mem_map.1 hblank
    exact .inl ⟨a.2, rfl⟩
  · cases k with
    | selectColumns table columns aliases =>
      exact .inr (.inr (.inr ⟨table, columns, aliases, rfl, hlater⟩))
    | join kind table label test =>
      have hr := (List.mem_ite_nil_right.1 hlater).2
      exact .inr (.inr (.inl ⟨⟨kind, table, label, test, rfl⟩, List.mem_singleton.1 hr⟩))
    | having test connective =>
      exact .inr (.inl (List.mem_singleton.1 (List.mem_ite_nil_right.1 hlater).2))
    | _ => simp [Call.laterObjections] at hlater

/-- No call gets as far as to have the draft refuse a blank fragment. -/
theorem root_of_mem_objections {d : Draft} {k : Call} {r : Refusal} (h : r ∈ k.objections d)
    (clause : Clause) : r.root ≠ .edit (.blankFragment clause) := by
  rcases mem_objections h with ⟨role, rfl⟩ | rfl | ⟨-, rfl⟩ | ⟨table, columns, aliases, -, hr⟩
  · simp [Refusal.root]
  · simp [Refusal.root]
  · simp [Refusal.root]
  · rcases mem_columnsObjections hr with ⟨⟨v, rfl⟩, -⟩ | ⟨n, m, rfl⟩ | ⟨role, rfl⟩ <;>
      simp [Refusal.root]

/-- **A call comes too early** exactly where it is a join with its arguments in order and no table
to join to. -/
theorem refused_order_iff (d : Draft) (k : Call) :
    (∃ r, (k.objections d).head? = some r ∧ r.sort = .order)
      ↔ ∃ kind table label test, k = .join kind table label test ∧ table.isBlank = false
          ∧ test.isBlank = false ∧ d.fragments .source = [] := by
  constructor
  · rintro ⟨r, hr, hsort⟩
    rcases mem_objections (List.mem_of_mem_head? hr) with ⟨role, rfl⟩ | rfl
      | ⟨⟨kind, table, label, test, rfl⟩, rfl⟩ | ⟨table, columns, aliases, rfl, hmem⟩
    · simp [Refusal.sort] at hsort
    · simp [Refusal.sort] at hsort
    · obtain ⟨hargs, hlater⟩ := (head?_objections_of_sort (by decide)).1 hr
      refine ⟨kind, table, label, test, rfl, hargs (table, .joinTable) (by simp [Call.required]),
        hargs (test, .joinCondition) (by simp [Call.required]), ?_⟩
      exact (List.mem_ite_nil_right.1 (List.mem_of_mem_head? hlater)).1
    · rcases mem_columnsObjections hmem with ⟨⟨v, rfl⟩, -⟩ | ⟨n, m, rfl⟩ | ⟨role, rfl⟩ <;>
        simp [Refusal.sort] at hsort
  · rintro ⟨kind, table, label, test, rfl, htable, htest, hsource⟩
    refine ⟨.joinBeforeSource, ?_, rfl⟩
    simp [Call.objections, Call.required, Call.laterObjections, blanks, htable, htest, hsource]

/-- **An argument is not of a kind the call can use** exactly where several columns or their
aliases are no collection. -/
theorem refused_kind_iff (d : Draft) (k : Call) :
    (∃ r, (k.objections d).head? = some r ∧ r.sort = .kind)
      ↔ ∃ table columns aliases, k = .selectColumns table columns aliases
          ∧ (columns.elements? = none ∨ (aliases ≠ .null ∧ aliases.elements? = none)) := by
  constructor
  · rintro ⟨r, hr, hsort⟩
    rcases mem_objections (List.mem_of_mem_head? hr) with ⟨role, rfl⟩ | rfl
      | ⟨⟨kind, table, label, test, rfl⟩, rfl⟩ | ⟨table, columns, aliases, rfl, hmem⟩
    · simp [Refusal.sort] at hsort
    · simp [Refusal.sort] at hsort
    · simp [Refusal.sort] at hsort
    · rcases mem_columnsObjections hmem with ⟨-, hlist⟩ | ⟨n, m, rfl⟩ | ⟨role, rfl⟩
      · exact ⟨table, columns, aliases, rfl, hlist⟩
      · simp [Refusal.sort] at hsort
      · simp [Refusal.sort] at hsort
  · -- the columns are looked at before the aliases, and no argument of this call is required
    rintro ⟨table, columns, aliases, rfl, hlist⟩
    show ∃ r, (columnsObjections table columns aliases).head? = some r ∧ _
    unfold columnsObjections
    cases hnames : columns.elements? with
    | none => exact ⟨_, rfl, rfl⟩
    | some names =>
      have hlabels : labelsFor names aliases = none :=
        (labelsFor_eq_none_iff names aliases).2 (hlist.resolve_left (by simp [hnames]))
      exact ⟨.notCollection aliases, by simp [hlabels], rfl⟩

/-! ## The exact refusals of a call -/

/-- **When a call is refused, for what, and with what left behind.** A call is refused exactly
where it is at fault, and for the first of its objections. It comes too early exactly where it is
a join in order without a table to join to; an argument is of no use to it exactly where several
columns or their aliases are no collection; every other refusal is of an unfit argument, and none
of them comes from a fragment that the draft found blank. The composer, its nine clauses and its
latest statement, is left as it was. -/
theorem perform_refused_exactly (k : Call) (c : Composer) :
    ((∃ r, ((perform k).run c).result = .error r) ↔ k.AtFault c.draft)
      ∧ (∀ r, ((perform k).run c).result = .error r ↔ (k.objections c.draft).head? = some r)
      ∧ ((∃ r, ((perform k).run c).result = .error r ∧ r.sort = .order)
          ↔ ∃ kind table label test, k = .join kind table label test ∧ table.isBlank = false
              ∧ test.isBlank = false ∧ c.draft.fragments .source = [])
      ∧ ((∃ r, ((perform k).run c).result = .error r ∧ r.sort = .kind)
          ↔ ∃ table columns aliases, k = .selectColumns table columns aliases
              ∧ (columns.elements? = none ∨ (aliases ≠ .null ∧ aliases.elements? = none)))
      ∧ (∀ r clause, ((perform k).run c).result = .error r →
          r.root ≠ .edit (.blankFragment clause))
      ∧ (∀ r, ((perform k).run c).result = .error r → ((perform k).run c).state = c) := by
  refine ⟨refused_iff k c, result_eq_error_iff k c, ?_, ?_, ?_, fun r => state_of_refused⟩
  · simp only [result_eq_error_iff]
    exact refused_order_iff c.draft k
  · simp only [result_eq_error_iff]
    exact refused_kind_iff c.draft k
  · intro r clause h
    exact root_of_mem_objections (List.mem_of_mem_head? ((result_eq_error_iff k c r).1 h)) clause

end SqlText.Composer
