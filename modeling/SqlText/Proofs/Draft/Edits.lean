import SqlText.Draft

/-!
# Edits that go through

The clauses of a draft are set independently of one another, and an edit that is not refused sets
its own clause and no other. What follows says what each edit sets it to, for fragments and
connectives that are not blank.
-/

namespace SqlText.Draft

@[simp] theorem setFragments_setFragments (d : Draft) (c : Clause) (fs gs : List Value) :
    (d.setFragments c fs).setFragments c gs = d.setFragments c gs := by
  cases c <;> rfl

@[simp] theorem setFragments_fragments (d : Draft) (c : Clause) :
    d.setFragments c (d.fragments c) = d := by
  cases c <;> rfl

theorem setFragments_comm (d : Draft) {c k : Clause} (h : c ≠ k) (fs gs : List Value) :
    (d.setFragments c fs).setFragments k gs = (d.setFragments k gs).setFragments c fs := by
  revert h
  cases c <;> cases k <;> simp [setFragments]

theorem isEmptyAt_iff {d : Draft} {c : Clause} : d.isEmptyAt c = true ↔ d.fragments c = [] :=
  List.isEmpty_iff

theorem edit_add {f : Value} (hf : f.isBlank = false) (c : Clause) (d : Draft) :
    d.edit (.add c f) = .ok (d.setFragments c (d.fragments c ++ [f])) := by
  simp only [edit, add, hf, Bool.false_eq_true, if_false]

theorem edit_replace_singleton {f : Value} (hf : f.isBlank = false) (c : Clause) (d : Draft) :
    d.edit (.replace c (.list [f])) = .ok (d.setFragments c [f]) := by
  simp [edit, replace, Value.elements?, hf]

/-- A further condition, with its connective in front of it. -/
def joined (connective condition : Value) : Value :=
  .text (connective.toText ++ " " ++ condition.toText)

theorem edit_addJoined_first {f : Value} (hf : f.isBlank = false) (connective : Value)
    {c : Clause} {d : Draft} (he : d.fragments c = []) :
    d.edit (.addJoined c f connective) = .ok (d.setFragments c [f]) := by
  simp only [edit, addJoined, hf, isEmptyAt_iff.2 he, Bool.false_eq_true, if_false, if_true]

theorem edit_addJoined_further {f connective : Value} (hf : f.isBlank = false)
    (hc : connective.isBlank = false) {c : Clause} {d : Draft} (hne : d.fragments c ≠ []) :
    d.edit (.addJoined c f connective)
      = .ok (d.setFragments c (d.fragments c ++ [joined connective f])) := by
  have he : d.isEmptyAt c = false := Bool.eq_false_iff.2 (mt isEmptyAt_iff.1 hne)
  simp only [edit, addJoined, joined, hf, he, hc, Bool.false_eq_true, if_false]

theorem edit_addJoined_unconnected {f connective : Value} (hf : f.isBlank = false)
    (hc : connective.isBlank = true) {c : Clause} {d : Draft} (hne : d.fragments c ≠ []) :
    d.edit (.addJoined c f connective) = .error (.blankConnective c) := by
  have he : d.isEmptyAt c = false := Bool.eq_false_iff.2 (mt isEmptyAt_iff.1 hne)
  simp only [edit, addJoined, hf, he, hc, Bool.false_eq_true, if_false, if_true]

@[simp] theorem keep_append (fs gs : List Value) : keep fs.length (fs ++ gs) = fs := by
  simp [keep]

end SqlText.Draft
