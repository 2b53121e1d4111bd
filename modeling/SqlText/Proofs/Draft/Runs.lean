import SqlText.Proofs.Draft.Edits
import SqlText.Proofs.Visible

/-!
# Drafts over runs of edits

What an edit comes to is told by its own arguments and the fragments of its own clause.
`Edit.Refused` lists the reasons to refuse one, and there are no others (`edit_eq_error_iff`);
`Edit.revise` is what an edit makes of its clause where there is none (`edit_of_not_refused`). So
every edit, refused or not, leaves the other clauses alone, and **no run of edits ever brings a
blank fragment in** (`visible_run`), whatever was refused on the way and whatever was cut off.

Cutting off is the one edit that is never refused. It leaves a beginning of the clause, how much of
it is said by `length_keep` for lengths of any size on either side of zero.
-/

namespace SqlText.Draft

variable {d : Draft} {e : Edit} {c k : Clause}

/-! ## What an edit comes to -/

/-- **The reasons to refuse an edit** of a draft. To cut off the last fragments none is given. -/
inductive Edit.Refused (d : Draft) : Edit → Refusal → Prop where
  /-- A fragment to be added is blank. -/
  | blankAdded {c : Clause} {f : Value} (hf : f.isBlank = true) :
      Refused d (.add c f) (.blankFragment c)
  /-- What should take the place of the fragments is no collection. -/
  | notCollection {c : Clause} {v : Value} (hv : v.elements? = none) :
      Refused d (.replace c v) (.notCollection v)
  /-- It has a blank member. -/
  | blankMember {c : Clause} {v f : Value} {fs : List Value} (hv : v.elements? = some fs)
      (hmem : f ∈ fs) (hf : f.isBlank = true) : Refused d (.replace c v) (.blankFragment c)
  /-- A condition to be joined is blank. -/
  | blankJoined {c : Clause} {f connective : Value} (hf : f.isBlank = true) :
      Refused d (.addJoined c f connective) (.blankFragment c)
  /-- There are conditions before it, and the connective is blank. -/
  | blankConnective {c : Clause} {f connective : Value} (hf : f.isBlank = false)
      (hne : d.fragments c ≠ []) (hconnective : connective.isBlank = true) :
      Refused d (.addJoined c f connective) (.blankConnective c)

/-- **What an edit makes of the fragments of its clause**, if it is not refused. -/
def Edit.revise (fs : List Value) : Edit → List Value
  | .add _ f => fs ++ [f]
  | .replace _ v => v.elements?.getD []
  | .addJoined _ f connective => if fs = [] then [f] else fs ++ [joined connective f]
  | .truncate _ length => keep length fs

/-- A collection takes the place of the fragments unless it is none, or has a blank member. -/
theorem edit_replace (c : Clause) (v : Value) (d : Draft) :
    d.edit (.replace c v)
      = match v.elements? with
        | none => .error (.notCollection v)
        | some fs =>
          if ∃ f ∈ fs, f.isBlank = true then .error (.blankFragment c)
          else .ok (d.setFragments c fs) := by
  show d.replace c v = _
  unfold replace
  cases v.elements? with
  | none => rfl
  | some fs => simp only [List.any_eq_true]

/-- An edit is refused for each of the reasons. -/
theorem edit_of_refused {r : Refusal} (h : e.Refused d r) : d.edit e = .error r := by
  cases h with
  | blankAdded hf => exact if_pos hf
  | notCollection hv => rw [edit_replace, hv]
  | blankMember hv hmem hf =>
    rw [edit_replace, hv]
    exact if_pos ⟨_, hmem, hf⟩
  | blankJoined hf => exact if_pos hf
  | blankConnective hf hne hconnective => exact edit_addJoined_unconnected hf hconnective hne

/-- **An edit that there is no reason to refuse revises its clause**, and nothing else. -/
theorem edit_of_not_refused (h : ∀ r, ¬ e.Refused d r) :
    d.edit e = .ok (d.setFragments e.clause (e.revise (d.fragments e.clause))) := by
  cases e with
  | add c f => exact edit_add (Bool.eq_false_iff.2 fun hf => h _ (.blankAdded hf)) c d
  | replace c v =>
    rw [edit_replace]
    cases hv : v.elements? with
    | none => exact absurd (.notCollection hv) (h _)
    | some fs =>
      have hfs : ¬ ∃ f ∈ fs, f.isBlank = true := fun ⟨f, hmem, hf⟩ =>
        h _ (.blankMember hv hmem hf)
      simp only [if_neg hfs, Edit.revise, Edit.clause, hv, Option.getD_some]
  | addJoined c f connective =>
    have hf := Bool.eq_false_iff.2 fun hf => h _ (.blankJoined hf)
    by_cases hne : d.fragments c = []
    · rw [edit_addJoined_first hf _ hne]
      exact congrArg (fun fs => Except.ok (d.setFragments c fs)) (if_pos hne).symm
    · have hconnective := Bool.eq_false_iff.2 fun hb => h _ (.blankConnective hf hne hb)
      rw [edit_addJoined_further hf hconnective hne]
      exact congrArg (fun fs => Except.ok (d.setFragments c fs)) (if_neg hne).symm
  | truncate c length => rfl

/-- **An edit is refused for these reasons and for no others.** -/
theorem edit_eq_error_iff (d : Draft) (e : Edit) (r : Refusal) :
    d.edit e = .error r ↔ e.Refused d r := by
  refine ⟨fun h => ?_, edit_of_refused⟩
  by_cases hrefused : ∃ r', e.Refused d r'
  · obtain ⟨r', hr'⟩ := hrefused
    obtain rfl : r' = r := Except.error.inj ((edit_of_refused hr').symm.trans h)
    exact hr'
  · rw [edit_of_not_refused (not_exists.1 hrefused)] at h
    cases h

/-- The draft after an edit: as it was, or revised in the edit's clause. -/
theorem after_cases (d : Draft) (e : Edit) :
    ((∃ r, e.Refused d r) ∧ d.after e = d)
      ∨ ((∀ r, ¬ e.Refused d r)
          ∧ d.after e = d.setFragments e.clause (e.revise (d.fragments e.clause))) := by
  unfold after
  by_cases hrefused : ∃ r, e.Refused d r
  · obtain ⟨r, hr⟩ := hrefused
    exact .inl ⟨⟨r, hr⟩, by rw [edit_of_refused hr]⟩
  · have hnone := not_exists.1 hrefused
    exact .inr ⟨hnone, by rw [edit_of_not_refused hnone]⟩

/-- **Every edit leaves the other clauses alone**, refused or not. -/
theorem fragments_after_of_ne (d : Draft) (e : Edit) (hk : k ≠ e.clause) :
    (d.after e).fragments k = d.fragments k := by
  rcases after_cases d e with ⟨-, hafter⟩ | ⟨-, hafter⟩
  · rw [hafter]
  · rw [hafter, fragments_setFragments_of_ne d hk]

/-- **What every edit of a run keeps, the run keeps.** -/
theorem run_invariant {P : Draft → Prop} {es : List Edit}
    (hkeep : ∀ e ∈ es, ∀ d, P d → P (d.after e)) (hd : P d) : P (d.run es) := by
  induction es generalizing d with
  | nil => exact hd
  | cons e rest ih =>
    exact ih (fun e he => hkeep e (List.mem_cons_of_mem _ he)) (hkeep e List.mem_cons_self d hd)

/-! ## Cutting off -/

theorem prefix_keep (length : Int) (fs : List Value) : keep length fs <+: fs :=
  List.take_prefix _ fs

/-- **How much is kept**: as many fragments as asked for, as far as there are so many; and counted
from the end, those in front, if any. -/
theorem length_keep (length : Int) (fs : List Value) :
    ((keep length fs).length : Int)
      = if 0 ≤ length then min length fs.length else max 0 (fs.length + length) := by
  unfold keep
  rw [List.length_take]
  split <;> omega

/-! ## Blank fragments -/

/-- No fragment of a draft is blank. -/
def Visible (d : Draft) : Prop := ∀ c, ∀ f ∈ d.fragments c, f.isBlank = false

theorem isBlank_of_mem_concat {fs : List Value} (hfs : ∀ f ∈ fs, f.isBlank = false) {g : Value}
    (hg : g.isBlank = false) : ∀ f ∈ fs ++ [g], f.isBlank = false :=
  List.forall_mem_append.2 ⟨hfs, List.forall_mem_singleton.2 hg⟩

theorem isBlank_joined {f : Value} (hf : f.isBlank = false) (connective : Value) :
    (joined connective f).isBlank = false := by
  show Text.isBlankText (connective.toText ++ " " ++ f.toText) = false
  rw [Text.isBlankText_append, Value.isBlankText_toText hf, Bool.and_false]

theorem isBlank_of_mem_addJoined {fs : List Value} (hfs : ∀ f ∈ fs, f.isBlank = false) {g : Value}
    (hg : g.isBlank = false) (connective : Value) :
    ∀ f ∈ if fs = [] then [g] else fs ++ [joined connective g], f.isBlank = false := by
  split
  · exact List.forall_mem_singleton.2 hg
  · exact isBlank_of_mem_concat hfs (isBlank_joined hg connective)

/-- **An edit that is not refused brings no blank fragment in.** -/
theorem isBlank_of_mem_edit (h : ∀ r, ¬ e.Refused d r)
    (hd : ∀ f ∈ d.fragments e.clause, f.isBlank = false) :
    ∀ f ∈ e.revise (d.fragments e.clause), f.isBlank = false := by
  cases e with
  | add c f => exact isBlank_of_mem_concat hd (Bool.eq_false_iff.2 fun hf => h _ (.blankAdded hf))
  | replace c v =>
    intro f hf
    refine Bool.eq_false_iff.2 fun hblank => ?_
    cases hv : v.elements? with
    | none => exact h _ (.notCollection hv)
    | some fs =>
      have hmem : f ∈ fs := by rwa [Edit.revise, hv] at hf
      exact h _ (.blankMember hv hmem hblank)
  | addJoined c f connective =>
    have hf : f.isBlank = false := Bool.eq_false_iff.2 fun hf => h _ (.blankJoined hf)
    exact isBlank_of_mem_addJoined hd hf connective
  | truncate c length => exact fun f hf => hd f ((prefix_keep length _).subset hf)

/-- **Every edit leaves a draft without blank fragments**, refused or not. -/
theorem Visible.after (hd : d.Visible) (e : Edit) : (d.after e).Visible := by
  rcases after_cases d e with ⟨-, hafter⟩ | ⟨hnone, hafter⟩
  · rwa [hafter]
  · intro c
    rw [hafter]
    by_cases hc : c = e.clause
    · rw [hc, fragments_setFragments_self]
      exact isBlank_of_mem_edit hnone (hd e.clause)
    · rw [fragments_setFragments_of_ne d hc]
      exact hd c

/-- **So does every run.** -/
theorem visible_run (hd : d.Visible) (es : List Edit) : (d.run es).Visible :=
  run_invariant (fun e _ _ hd => hd.after e) hd

/-- **The store over whole runs.** After any edits to the empty draft, refused or not, no fragment
is blank; and whatever the next edit is, it is refused for one of the reasons listed and changes
nothing then, or there is none of them and it revises its own clause. In no case does it touch
another one. Cutting off is never refused: it leaves a beginning of the clause, of the length asked
for as far as there is so much, or without as many fragments at the end as were asked for. -/
theorem visible_over_runs (es : List Edit) :
    let d := run empty es
    (∀ c, ∀ f ∈ d.fragments c, f.isBlank = false)
      ∧ (∀ e r, d.edit e = .error r ↔ e.Refused d r)
      ∧ (∀ e r, d.edit e = .error r → d.after e = d)
      ∧ (∀ e, (∀ r, ¬ e.Refused d r) →
          (d.after e).fragments e.clause = e.revise (d.fragments e.clause))
      ∧ (∀ e c, c ≠ e.clause → (d.after e).fragments c = d.fragments c)
      ∧ ∀ c length, d.edit (.truncate c length) = .ok (d.truncate c length)
          ∧ (d.truncate c length).fragments c <+: d.fragments c
          ∧ (((d.truncate c length).fragments c).length : Int)
            = if 0 ≤ length then min length (d.fragments c).length
              else max 0 ((d.fragments c).length + length) := by
  intro d
  have hempty : empty.Visible := by simp [Visible]
  refine ⟨visible_run hempty es, edit_eq_error_iff d, fun e r h => ?_, fun e hnone => ?_,
    fun e c hc => fragments_after_of_ne d e hc, fun c length => ⟨rfl, ?_, ?_⟩⟩
  · rw [after, h]
  · rw [after, edit_of_not_refused hnone]
    exact fragments_setFragments_self d e.clause _
  · rw [fragments_truncate_self]
    exact prefix_keep length _
  · rw [fragments_truncate_self]
    exact length_keep length _

end SqlText.Draft
