import SqlText.Proofs.Draft.Runs

/-!
# Taking additions back

What is added to a clause goes behind what the clause holds, and never changes it. So however many
fragments and conditions were added, and however many were refused in between, **a cut at the length
that the clause had before takes them back**, and nothing else (`additions_undone`).

Nor do they leave a trace elsewhere. An edit reads no clause but its own (`edit_eq_map`), so what is
left is the draft as it would be if nothing had been asked of the clause at all. In particular the
next condition for the clause is joined or refused as it would have been before, and stands without
its connective again if the clause was empty.
-/

namespace SqlText.Draft

variable {d d' : Draft} {e : Edit} {c k : Clause} {es : List Edit}

/-! ## An edit reads its own clause -/

/-- The reasons to refuse an edit are found in its own clause. -/
theorem Edit.Refused.congr (h : d.fragments e.clause = d'.fragments e.clause) {r : Refusal}
    (hr : e.Refused d r) : e.Refused d' r := by
  cases hr with
  | blankAdded hf => exact .blankAdded hf
  | notCollection hv => exact .notCollection hv
  | blankMember hv hmem hf => exact .blankMember hv hmem hf
  | blankJoined hf => exact .blankJoined hf
  | blankConnective hf hne hconnective =>
    exact .blankConnective hf (fun hnil => hne (h.trans hnil)) hconnective

/-- **An edit reads no clause but its own.** To drafts that agree in this clause it does the same
there, or is refused for the same reason. -/
theorem edit_eq_map (h : d.fragments e.clause = d'.fragments e.clause) :
    d.edit e = (d'.edit e).map fun t => d.setFragments e.clause (t.fragments e.clause) := by
  by_cases hrefused : ∃ r, e.Refused d' r
  · obtain ⟨r, hr⟩ := hrefused
    rw [edit_of_refused hr, edit_of_refused (hr.congr h.symm)]
    rfl
  · have hnone := not_exists.1 hrefused
    rw [edit_of_not_refused hnone, edit_of_not_refused fun r hr => hnone r (hr.congr h), h]
    show _ = Except.ok (d.setFragments e.clause ((d'.setFragments e.clause _).fragments e.clause))
    rw [fragments_setFragments_self]

/-- Drafts that agree in a clause agree in it after any edit. -/
theorem fragments_after_congr (h : d.fragments k = d'.fragments k) (e : Edit) :
    (d.after e).fragments k = (d'.after e).fragments k := by
  by_cases hk : k = e.clause
  · subst hk
    unfold after
    rw [edit_eq_map h]
    cases d'.edit e with
    | ok t => exact fragments_setFragments_self d e.clause _
    | error r => exact h
  · rw [fragments_after_of_ne d e hk, fragments_after_of_ne d' e hk, h]

/-- **The edits aimed at one clause have no part in another**: a run leaves there what it would
leave without them. -/
theorem fragments_run_filter (hk : k ≠ c) (h : d.fragments k = d'.fragments k) (es : List Edit) :
    (d.run (es.filter fun e => e.clause ≠ c)).fragments k = (d'.run es).fragments k := by
  induction es generalizing d d' with
  | nil => exact h
  | cons e rest ih =>
    by_cases he : e.clause = c
    · rw [List.filter_cons_of_neg (by simpa using he)]
      exact ih (h.trans (fragments_after_of_ne d' e (he ▸ hk)).symm)
    · rw [List.filter_cons_of_pos (by simpa using he)]
      exact ih (fragments_after_congr h e)

theorem fragments_run_of_ne (h : ∀ e ∈ es, c ≠ e.clause) (d : Draft) :
    (d.run es).fragments c = d.fragments c :=
  run_invariant (P := fun t => t.fragments c = d.fragments c)
    (fun e he t ht => (fragments_after_of_ne t e (h e he)).trans ht) rfl

/-! ## Additions -/

/-- The edits that add to the end of their clause, be it a fragment or a condition with its
connective. -/
def Edit.isAddition : Edit → Bool
  | .add _ _ | .addJoined _ _ _ => true
  | .replace _ _ | .truncate _ _ => false

/-- An addition leaves in front what there was. -/
theorem Edit.prefix_revise (he : e.isAddition = true) (fs : List Value) : fs <+: e.revise fs := by
  cases e with
  | add c f => exact List.prefix_append fs [f]
  | addJoined c f connective =>
    by_cases hnil : fs = []
    · subst hnil
      exact List.nil_prefix
    · rw [Edit.revise, if_neg hnil]
      exact List.prefix_append fs [joined connective f]
  | replace | truncate => cases he

/-- An edit that is an addition if it is aimed at a clause leaves in front what the clause held. -/
theorem prefix_after (he : e.clause = c → e.isAddition = true) (d : Draft) :
    d.fragments c <+: (d.after e).fragments c := by
  by_cases hc : e.clause = c
  · subst hc
    rcases after_cases d e with ⟨-, hafter⟩ | ⟨-, hafter⟩
    · simp only [hafter, List.prefix_rfl]
    · rw [hafter, fragments_setFragments_self]
      exact Edit.prefix_revise (he rfl) _
  · simp only [fragments_after_of_ne d e (Ne.symm hc), List.prefix_rfl]

/-- **A run that only adds to a clause** leaves in front what the clause held, whatever it does to
the others. -/
theorem prefix_run (h : ∀ e ∈ es, e.clause = c → e.isAddition = true) (d : Draft) :
    d.fragments c <+: (d.run es).fragments c :=
  run_invariant (P := fun t => d.fragments c <+: t.fragments c)
    (fun e he t ht => ht.trans (prefix_after (h e he) t)) List.prefix_rfl

/-! ## Taking them back -/

theorem keep_of_prefix {fs gs : List Value} (h : fs <+: gs) : keep fs.length gs = fs := by
  obtain ⟨added, rfl⟩ := h
  exact keep_append fs added

theorem fragments_truncate_run (h : ∀ e ∈ es, e.clause = c → e.isAddition = true) (d : Draft) :
    ((d.run es).truncate c (d.fragments c).length).fragments c = d.fragments c := by
  rw [fragments_truncate_self]
  exact keep_of_prefix (prefix_run h d)

/-- **The draft is then the one that the run leaves without the edits aimed at the clause.** -/
theorem truncate_run (h : ∀ e ∈ es, e.clause = c → e.isAddition = true) (d : Draft) :
    (d.run es).truncate c (d.fragments c).length = d.run (es.filter fun e => e.clause ≠ c) := by
  refine ext_fragments fun k => ?_
  by_cases hk : k = c
  · subst hk
    have helsewhere : ∀ e ∈ es.filter fun e => e.clause ≠ k, k ≠ e.clause := fun e he =>
      Ne.symm (by simpa using (List.mem_filter.1 he).2)
    rw [fragments_truncate_run h, fragments_run_of_ne helsewhere]
  · rw [fragments_truncate_of_ne hk, fragments_run_filter hk rfl]

/-- **Additions are undone by a cut.** After any run that only adds to a clause, refused or not, and
does to the others whatever it does, a cut at the length that the clause had before gives it back
the fragments that it had and leaves the other clauses as the run left them. The draft is then the
one that the run leaves without the edits aimed at the clause. A further condition for the clause is
refused for the reason for which it would have been refused before the run, or goes through and
leaves in the clause what it would have left there, and the other clauses as they are. -/
theorem additions_undone (d : Draft) (c : Clause) {es : List Edit}
    (h : ∀ e ∈ es, e.clause = c → e.isAddition = true) :
    let cut := (d.run es).truncate c (d.fragments c).length
    cut.fragments c = d.fragments c
      ∧ (∀ k, k ≠ c → cut.fragments k = (d.run es).fragments k)
      ∧ cut = d.run (es.filter fun e => e.clause ≠ c)
      ∧ ∀ f connective,
          cut.edit (.addJoined c f connective)
            = (d.edit (.addJoined c f connective)).map
                fun t => cut.setFragments c (t.fragments c) := by
  intro cut
  have hrestored : cut.fragments c = d.fragments c := fragments_truncate_run h d
  refine ⟨hrestored, fun k hk => fragments_truncate_of_ne hk _ _, truncate_run h d,
    fun f connective => ?_⟩
  exact edit_eq_map (e := .addJoined c f connective) hrestored

/-- Conditions on groups where there were none, among them one that has a blank connective and one
that is blank itself, and a condition on rows in between. Before they are taken back a condition
without a connective is refused; afterwards it is the first one again. -/
theorem additions_undone_having :
    let d : Draft := { filter := [.text "a = 1"] }
    let es : List Edit := [.addJoined .having (.text "n > 1") .null,
      .addJoined .having (.text "n < 9") (.text " "), .addJoined .filter (.text "b") (.text "OR"),
      .add .having .null, .addJoined .having (.text "n < 9") (.text "AND")]
    let next := Edit.addJoined .having (.text "m = 2") .null
    (∀ e ∈ es, e.clause = .having → e.isAddition = true)
      ∧ (d.run es).fragments .having = [.text "n > 1", .text "AND n < 9"]
      ∧ (d.run es).edit next = .error (.blankConnective .having)
      ∧ ((d.run es).truncate .having (d.fragments .having).length).edit next
        = .ok { filter := [.text "a = 1", .text "OR b"], having := [.text "m = 2"] } := by
  intro d es next
  have hadditions : ∀ e ∈ es, e.clause = .having → e.isAddition = true := by decide
  obtain ⟨-, -, -, hnext⟩ := additions_undone d .having hadditions
  exact ⟨hadditions, rfl, rfl, hnext (.text "m = 2") .null⟩

end SqlText.Draft
