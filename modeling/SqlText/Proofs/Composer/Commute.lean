import SqlText.Proofs.Composer.Reports
import SqlText.Proofs.Composer.Run

/-!
# Calls in either order

Two calls aimed at different clauses can change places: each is answered as it would be without the
other, says the same to the log, and the composer comes out the same. What a call reads of the draft
is its own clause (`run_answer_setFragments`), and nothing of that is touched by a call aimed
elsewhere, whether it goes through, is refused, or adds columns that it drops again.

**One pair of calls does not change places freely.** A join asks whether there is a table to join
to, so it sees one thing that is not its own: whether any table was added. The two orders come to
different things where the table is the first one and both calls are in order, and only there
(`commute_source_join_iff`).
-/

namespace SqlText.Composer

variable {c : Composer} {d : Draft} {x y : Call} {clause : Clause}

/-- **Two calls commute** on a composer: neither the answer to one of them nor what is said with it
depends on which comes first, nor does the composer after both. -/
structure Commute (c : Composer) (x y : Call) : Prop where
  /-- The first call is answered alike before and after the second. -/
  reply_left : reply (after c (.call y)) (.call x) = reply c (.call x)
  /-- It says the same. -/
  said_left : said (after c (.call y)) (.call x) = said c (.call x)
  /-- The second call is answered alike before and after the first. -/
  reply_right : reply (after c (.call x)) (.call y) = reply c (.call y)
  /-- It says the same. -/
  said_right : said (after c (.call x)) (.call y) = said c (.call y)
  /-- Both leave the same composer behind. -/
  after_both : after (after c (.call x)) (.call y) = after (after c (.call y)) (.call x)

/-- A call **feeds** another one if it adds a table and the other one joins to it. -/
def Call.Feeds : Call → Call → Prop
  | .source .., .join .. => True
  | _, _ => False

/-! ## What a call sees -/

/-- A call that goes through sets its own clause, and a refused one sets it to what it holds. -/
theorem after_call (c : Composer) (k : Call) :
    after c (.call k) = c.setFragments k.clause ((after c (.call k)).draft.fragments k.clause) := by
  unfold after
  rw [run_answer_call]
  cases k.objections c.draft with
  | nil => simp [accept, setFragments]
  | cons r rest => rw [setFragments_fragments]

/-- **A call sees its own clause**, and whether there is a table if it is a join: where its first
objection is the same, other fragments in another clause change nothing for it. -/
theorem run_answer_setFragments (fs : List Value) (hne : clause ≠ x.clause)
    (hobj : (x.objections (c.draft.setFragments clause fs)).head?
      = (x.objections c.draft).head?) :
    (answer (.call x)).run (c.setFragments clause fs)
      = ⟨reply c (.call x), said c (.call x), (after c (.call x)).setFragments clause fs⟩ := by
  unfold reply said after
  rw [run_answer_call, run_answer_call, draft_setFragments]
  cases hx : x.objections c.draft with
  | nil =>
    rw [List.head?_eq_none_iff.1 (hobj.trans (by rw [hx]; rfl))]
    simp only [accept, setFragments, Draft.fragments_setFragments_of_ne _ hne.symm,
      Draft.setFragments_comm _ hne]
  | cons r rest =>
    obtain ⟨rest', hrest⟩ := List.head?_eq_some_iff.1 (hobj.trans (by rw [hx]; rfl))
    rw [hrest]

/-- **Calls commute** that meet the same first objection, or none, before and after each other. -/
theorem commute_of_head? (hne : x.clause ≠ y.clause)
    (hx : (x.objections (after c (.call y)).draft).head? = (x.objections c.draft).head?)
    (hy : (y.objections (after c (.call x)).draft).head? = (y.objections c.draft).head?) :
    Commute c x y := by
  obtain ⟨fs, hfs⟩ : ∃ fs, after c (.call x) = c.setFragments x.clause fs := ⟨_, after_call c x⟩
  obtain ⟨gs, hgs⟩ : ∃ gs, after c (.call y) = c.setFragments y.clause gs := ⟨_, after_call c y⟩
  have hrunx := run_answer_setFragments gs hne.symm (by rw [← hx, hgs]; rfl)
  have hruny := run_answer_setFragments fs hne (by rw [← hy, hfs]; rfl)
  refine ⟨?_, ?_, ?_, ?_, ?_⟩
  · rw [hgs, reply, hrunx]
  · rw [hgs, said, hrunx]
  · rw [hfs, reply, hruny]
  · rw [hfs, said, hruny]
  · have hxy : after (after c (.call x)) (.call y)
        = (after c (.call y)).setFragments x.clause fs := by
      rw [hfs, after, hruny]
    have hyx : after (after c (.call y)) (.call x)
        = (after c (.call x)).setFragments y.clause gs := by
      rw [hgs, after, hrunx]
    rw [hxy, hyx, hfs, hgs]
    simp only [setFragments, Draft.setFragments_comm _ hne]

/-! ## Calls that do not feed each other -/

theorem exists_source_of_clause (h : x.clause = .source) :
    ∃ table label, x = .source table label := by
  cases x with
  | source table label => exact ⟨table, label, rfl⟩
  | join kind table label test => cases kind <;> cases h
  | _ => cases h

/-- What a call is objected to for does not depend on other clauses, a join apart. -/
theorem objections_setFragments (hne : clause ≠ x.clause)
    (hsource : clause = .source → x.clause.isJoin = false) :
    x.objections (d.setFragments clause fs) = x.objections d := by
  unfold Call.objections
  cases x with
  | join kind table label test =>
    have hc : Clause.source ≠ clause := by
      rintro rfl
      cases kind <;> cases hsource rfl
    simp only [Call.laterObjections, Draft.fragments_setFragments_of_ne d hc]
  | having test connective =>
    have hc : Clause.having ≠ clause := hne.symm
    simp only [Call.laterObjections, Draft.fragments_setFragments_of_ne d hc]
  | _ => rfl

/-- A call meets the same objections after one that does not feed it. -/
theorem objections_after_call (hne : x.clause ≠ y.clause) (hfeed : ¬ y.Feeds x) :
    x.objections (after c (.call y)).draft = x.objections c.draft := by
  rw [after_call, draft_setFragments]
  refine objections_setFragments hne.symm fun hy => ?_
  obtain ⟨table, label, rfl⟩ := exists_source_of_clause hy
  cases x with
  | join kind table label test => exact absurd trivial hfeed
  | _ => rfl

/-! ## A table and a join -/

variable {table label joined name test : Value} {kind : Join}

theorem head?_objections_join (d : Draft) :
    ((Call.join kind joined name test).objections d).head?
      = ((blanks (Call.join kind joined name test).required).head?).or
          (if d.fragments .source = [] then some .joinBeforeSource else none) := by
  rw [Call.objections, List.head?_append, Call.laterObjections]
  split <;> rfl

/-- A table is added where it has a name, and nothing changes where it has none. -/
theorem source_after_call (c : Composer) (table label : Value) :
    (after c (.call (.source table label))).draft.fragments .source
      = if table.isBlank = true then c.draft.fragments .source
        else c.draft.fragments .source ++ [.text (sourceFragment table label)] := by
  rw [draft_after_call, draftAfter]
  cases h : table.isBlank <;>
    simp [Call.objections, Call.required, Call.laterObjections, blanks, h, Call.clause, Call.revise]

/-- A join with its arguments in order comes too early without a table, and goes through behind
one. -/
theorem reply_join_of_first (kind : Join) (label name : Value)
    (hempty : c.draft.fragments .source = [])
    (htable : table.isBlank = false) (hjoined : joined.isBlank = false)
    (htest : test.isBlank = false) :
    reply c (.call (.join kind joined name test)) = .error (.refused .joinBeforeSource)
      ∧ reply (after c (.call (.source table label))) (.call (.join kind joined name test))
          = .ok .done := by
  unfold reply
  rw [run_answer_call, run_answer_call]
  simp [Call.objections, Call.required, Call.laterObjections, blanks, hjoined, htest, hempty,
    source_after_call, htable]

/-- **The two orders differ** exactly where the table is the first one and it, the table joined to
it and the condition all are there. -/
theorem commute_source_join_iff :
    Commute c (.source table label) (.join kind joined name test)
      ↔ ¬ (c.draft.fragments .source = [] ∧ table.isBlank = false ∧ joined.isBlank = false
          ∧ test.isBlank = false) := by
  have hne : (Call.source table label).clause ≠ (Call.join kind joined name test).clause := by
    cases kind <;> exact Clause.noConfusion
  constructor
  · -- the join is refused without the table, and nothing is left to object to with it
    rintro h ⟨hempty, htable, hjoined, htest⟩
    obtain ⟨hearly, hlate⟩ :=
      reply_join_of_first kind label name hempty htable hjoined htest
    have hreply := h.reply_right
    rw [hearly, hlate] at hreply
    cases hreply
  · intro h
    refine commute_of_head? hne (congrArg _ (objections_after_call hne id)) ?_
    rw [head?_objections_join, head?_objections_join, source_after_call]
    cases hblank : (blanks (Call.join kind joined name test).required).head? with
    | some r => rfl
    | none =>
      -- the join is in order, so the table has no name or is not the first
      have harg := blanks_eq_nil_iff.1 (List.head?_eq_none_iff.1 hblank)
      have hjoined : joined.isBlank = false := harg (joined, .joinTable) (by simp [Call.required])
      have htest : test.isBlank = false := harg (test, .joinCondition) (by simp [Call.required])
      cases htable : table.isBlank with
      | true => rfl
      | false =>
        have hsource : c.draft.fragments .source ≠ [] := fun he => h ⟨he, htable, hjoined, htest⟩
        simp [hsource]

/-! ## The order of calls -/

/-- **The order of calls.** Two calls aimed at different clauses, neither of which feeds the other,
commute on every composer, so that the same is rendered after both. A table and a join fail to
commute exactly where there is no table yet and the table, the table joined to it and the condition
all are there; and then the join comes too early when it comes first and goes through when it comes
second. -/
theorem calls_commute (c : Composer) :
    (∀ x y : Call, x.clause ≠ y.clause → ¬ x.Feeds y → ¬ y.Feeds x →
        Commute c x y
          ∧ reply (after (after c (.call x)) (.call y)) .render
              = reply (after (after c (.call y)) (.call x)) .render)
      ∧ ∀ (kind : Join) (table label joined name test : Value),
          (¬ Commute c (.source table label) (.join kind joined name test)
              ↔ c.draft.fragments .source = [] ∧ table.isBlank = false ∧ joined.isBlank = false
                ∧ test.isBlank = false)
            ∧ (¬ Commute c (.source table label) (.join kind joined name test) →
                reply c (.call (.join kind joined name test))
                    = .error (.refused .joinBeforeSource)
                  ∧ Refusal.joinBeforeSource.sort = .order
                  ∧ reply (after c (.call (.source table label)))
                      (.call (.join kind joined name test)) = .ok .done) := by
  refine ⟨fun x y hne hxy hyx => ?_, fun kind table label joined name test => ?_⟩
  · have hcommute : Commute c x y :=
      commute_of_head? hne (congrArg _ (objections_after_call hne hyx))
        (congrArg _ (objections_after_call hne.symm hxy))
    exact ⟨hcommute, by rw [hcommute.after_both]⟩
  · have hcommute : Commute c (.source table label) (.join kind joined name test) ↔ _ :=
      commute_source_join_iff
    have hdiffer := not_congr hcommute
    rw [Classical.not_not] at hdiffer
    refine ⟨hdiffer, fun h => ?_⟩
    obtain ⟨hempty, htable, hjoined, htest⟩ := hdiffer.1 h
    obtain ⟨hearly, hlate⟩ :=
      reply_join_of_first kind label name hempty htable hjoined htest
    exact ⟨hearly, rfl, hlate⟩

/-- A table and a condition change places, the first table and a join to it do not. -/
theorem calls_commute_first_table :
    let table : Call := .source (.text "users") (.text "u")
    let joined : Call := .join .left (.text "orders") .null (.text "u.id = orders.user")
    Commute fresh table (.condition (.text "u.id > 5")) ∧ ¬ Commute fresh table joined
      ∧ reply fresh (.call joined) = .error (.refused .joinBeforeSource) := by
  intro table joined
  have hdiffer : ¬ Commute fresh table joined :=
    ((calls_commute fresh).2 _ _ _ _ _ _).1.2 ⟨rfl, by decide, by decide, by decide⟩
  exact ⟨((calls_commute fresh).1 table _ (by decide) id id).1, hdiffer,
    (((calls_commute fresh).2 _ _ _ _ _ _).2 hdiffer).1⟩

end SqlText.Composer
