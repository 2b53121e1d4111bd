import SqlText.Proofs.Statement.Terminated

/-!
# Where there is no statement

Rendering joins the fragments of one clause after another, and joining stops at the first fragment
that is no text. **So what is reported is found by reading**: go through the clauses that are joined
in their order, joins only where there is a table to join to, and through the fragments of each, and
take the first that is no text with its position in its own clause (`statement_eq_error_iff`). What
clauses come behind it does not matter, nor does a fragment in a join that is not shown.
-/

namespace SqlText

/-- **The first of some values that is no text**, and its position. -/
def firstNotText? (vs : List Value) : Option NotText :=
  vs.zipIdx.findSome? fun v => if v.1.asText? = none then some ⟨v.2, v.1⟩ else none

/-- Values are taken for texts up to the first that is none. -/
theorem textsFrom_eq_error_iff (index : Nat) (vs : List Value) (e : NotText) :
    textsFrom index vs = .error e
      ↔ (vs.zipIdx index).findSome? (fun v =>
          if v.1.asText? = none then some (⟨v.2, v.1⟩ : NotText) else none) = some e := by
  induction vs generalizing index with
  | nil => simp [textsFrom]
  | cons v rest ih =>
    rw [textsFrom, List.zipIdx_cons, List.findSome?_cons]
    cases hv : v.asText? with
    | none => simp
    | some s =>
      simp only [reduceCtorEq, if_false, ← ih (index + 1)]
      cases textsFrom (index + 1) rest <;> simp [Except.map]

theorem map_eq_error_iff {ε α β : Type} (f : α → β) (r : Except ε α) (e : ε) :
    r.map f = .error e ↔ r = .error e := by
  cases r <;> simp [Except.map]

/-- **The first value that is no text** stands behind texts only, and its position is their
number. -/
theorem firstNotText?_eq_some_iff {vs : List Value} {e : NotText} :
    firstNotText? vs = some e ↔ ∃ texts rest, vs = texts ++ e.found :: rest
      ∧ (∀ v ∈ texts, v.asText? ≠ none) ∧ e.found.asText? = none ∧ e.index = texts.length := by
  have hsome : ∀ v : Value × Nat,
      (if v.1.asText? = none then some (⟨v.2, v.1⟩ : NotText) else none) = some e
        ↔ v = (e.found, e.index) ∧ e.found.asText? = none := by
    rintro ⟨v, i⟩
    obtain ⟨j, w⟩ := e
    by_cases h : v.asText? = none <;> grind
  simp only [firstNotText?, List.findSome?_eq_some_iff, hsome, ite_eq_right_iff, reduceCtorEq,
    imp_false]
  constructor
  · rintro ⟨front, _, back, heq, ⟨rfl, hnone⟩, hfront⟩
    obtain ⟨texts, others, rfl, rfl, hback⟩ := List.zipIdx_eq_append_iff.1 heq
    obtain ⟨_, rest, rfl, hpair, -⟩ := List.zipIdx_eq_cons_iff.1 hback.symm
    obtain ⟨rfl, hindex⟩ := Prod.mk.inj hpair
    refine ⟨texts, rest, rfl, fun v hv => ?_, hnone, by rw [hindex, Nat.zero_add]⟩
    obtain ⟨i, hi⟩ := List.mem_iff_getElem?.1 hv
    exact hfront (v, i) (List.mem_zipIdx_iff_getElem?.2 hi)
  · rintro ⟨texts, rest, rfl, htexts, hnone, hindex⟩
    refine ⟨texts.zipIdx, _, rest.zipIdx (texts.length + 1), ?_, ⟨rfl, hnone⟩,
      fun v hv => htexts v.1 (List.fst_mem_of_mem_zipIdx hv)⟩
    rw [List.zipIdx_append, List.zipIdx_cons, Nat.zero_add, hindex]

theorem mem_of_firstNotText? {vs : List Value} {e : NotText} (h : firstNotText? vs = some e) :
    e.found ∈ vs ∧ e.found.asText? = none := by
  obtain ⟨texts, rest, rfl, -, hnone, -⟩ := firstNotText?_eq_some_iff.1 h
  exact ⟨List.mem_append_right texts List.mem_cons_self, hnone⟩

theorem firstNotText?_isSome_iff (vs : List Value) :
    (firstNotText? vs).isSome = true ↔ ∃ v ∈ vs, v.asText? = none := by
  have hmem : ∀ v, (∃ i, (v, i) ∈ vs.zipIdx) ↔ v ∈ vs := fun v => by
    rw [List.mem_iff_getElem?]
    exact exists_congr fun i => List.mem_zipIdx_iff_getElem?
  simp [firstNotText?, List.findSome?_isSome_iff, hmem]

namespace Draft

variable {d : Draft} {e : NotText}

theorem segment_eq_error_iff (d : Draft) (c : Clause) :
    d.segment c = .error e ↔ firstNotText? (d.fragments c) = some e := by
  rw [segment, map_eq_error_iff, joinTexts, map_eq_error_iff, textsFrom_eq_error_iff]
  rfl

/-- **The clauses of which the fragments are joined**, in the order in which they are: joins only
where there is a table to join to. -/
def joinedClauses (d : Draft) : List Clause :=
  [.select, .source]
    ++ (if d.fragments .source = [] then [] else [.innerJoin, .leftJoin, .rightJoin])
    ++ [.filter, .groupBy, .sortBy, .having]

/-- The clauses that are joined are those in the order of their segments, without the joins that
are not shown. -/
theorem joinedClauses_eq (d : Draft) :
    d.joinedClauses
      = Clause.statementOrder.filter fun c => !(c.isJoin && d.isEmptyAt .source) := by
  unfold joinedClauses
  by_cases h : d.fragments .source = []
  · rw [if_pos h, isEmptyAt_iff.2 h]
    rfl
  · rw [if_neg h, Bool.eq_false_iff.2 (mt isEmptyAt_iff.1 h)]
    rfl

/-- The segments of some clauses are joined up to the first fragment that is no text. -/
theorem segmentsOf_eq_error_iff (d : Draft) (cs : List Clause) :
    d.segmentsOf cs = .error e
      ↔ (cs.filter fun c => !(c.isJoin && d.isEmptyAt .source)).findSome? (fun c =>
          firstNotText? (d.fragments c)) = some e := by
  induction cs with
  | nil => simp [segmentsOf]
  | cons c rest ih =>
    rw [segmentsOf, shows]
    by_cases hempty : d.fragments c = []
    · -- a clause without fragments is not shown, and has none that is no text
      have hnone : firstNotText? (d.fragments c) = none := by rw [hempty]; rfl
      rw [isEmptyAt_iff.2 hempty, Bool.not_true, Bool.false_and, if_neg Bool.false_ne_true, ih,
        List.filter_cons]
      split
      · rw [List.findSome?_cons, hnone]
      · rfl
    · rw [Bool.eq_false_iff.2 (mt isEmptyAt_iff.1 hempty), Bool.not_false, Bool.true_and,
        List.filter_cons]
      split
      · next hshown =>
        rw [List.findSome?_cons]
        cases hresult : d.segment c with
        | error e' => rw [(segment_eq_error_iff d c).1 hresult]; simp
        | ok s =>
          have hnone : firstNotText? (d.fragments c) = none :=
            Option.eq_none_iff_forall_ne_some.2 fun e' he' => by
              cases hresult.symm.trans ((segment_eq_error_iff d c).2 he')
          rw [hnone]
          exact (map_eq_error_iff _ _ e).trans ih
      · next hhidden => exact ih

/-- **There is no statement** where a fragment is joined that is no text, and what is reported is
the first. -/
theorem statement_eq_error_iff (d : Draft) (e : NotText) :
    d.statement = .error e
      ↔ d.joinedClauses.findSome? (fun c => firstNotText? (d.fragments c)) = some e := by
  rw [statement, map_eq_error_iff, segments, segmentsOf_eq_error_iff, joinedClauses_eq]

theorem mem_joinedClauses_iff (d : Draft) (c : Clause) :
    c ∈ d.joinedClauses ↔ (c.isJoin = true → d.fragments .source ≠ []) := by
  rw [joinedClauses_eq, List.mem_filter, and_iff_right c.mem_statementOrder, ne_eq, ← isEmptyAt_iff]
  cases c.isJoin <;> simp

/-- **There is no statement exactly where some fragment that is joined is no text.** -/
theorem statement_error_iff (d : Draft) :
    (∃ e, d.statement = .error e)
      ↔ ∃ c ∈ d.joinedClauses, ∃ f ∈ d.fragments c, f.asText? = none := by
  simp only [statement_eq_error_iff, ← Option.isSome_iff_exists, List.findSome?_isSome_iff,
    firstNotText?_isSome_iff]

end Draft

end SqlText
