import SqlText.Proofs.Statement.Segments

/-!
# One more fragment

What a fragment added to a draft of texts does to the segments of its statement is **local**: the
segment of its clause gets longer at its end, or comes into being at the clause's place in the
layout, and every other segment stays as it is.

Joins make two exceptions, since they are hidden while there is no table to join to. A join added
to such a draft does not show at all, and the first table brings all joins into the open that were
added before it, behind the segment of the tables (`segments_add`).
-/

namespace SqlText

/-! ## Places in the layout -/

/-- The rows of the layout before that of a clause. -/
def Clause.rowsBefore (c : Clause) : List (Clause × String × String) :=
  layout.takeWhile fun row => row.1 ≠ c

/-- The rows of the layout behind that of a clause. -/
def Clause.rowsBehind (c : Clause) : List (Clause × String × String) :=
  (layout.dropWhile fun row => row.1 ≠ c).tail

theorem layout_place (c : Clause) :
    layout = c.rowsBefore ++ (c, c.keyword, c.separator) :: c.rowsBehind := by
  cases c <;> rfl

theorem ne_of_mem_rowsBefore {c : Clause} : ∀ r ∈ c.rowsBefore, r.1 ≠ c := by
  cases c <;> decide

theorem ne_of_mem_rowsBehind {c : Clause} : ∀ r ∈ c.rowsBehind, r.1 ≠ c := by
  cases c <;> decide

namespace Draft

variable {d e : Draft} {c : Clause} {f : String}

/-! ## Rows shown -/

/-- The segment written in a row of the layout. -/
def rowText (d : Draft) (row : Clause × String × String) : String :=
  row.2.1 ++ String.intercalate row.2.2 (d.texts row.1)

/-- **The segments shown** in some rows of the layout. -/
def rowsShown (d : Draft) (rows : List (Clause × String × String)) : List String :=
  (rows.filter fun row => d.shows row.1).map d.rowText

theorem rowsShown_append (d : Draft) (rows rows' : List (Clause × String × String)) :
    d.rowsShown (rows ++ rows') = d.rowsShown rows ++ d.rowsShown rows' := by
  rw [rowsShown, List.filter_append, List.map_append]
  rfl

theorem rowsShown_cons (d : Draft) (r : Clause × String × String)
    (rows : List (Clause × String × String)) :
    d.rowsShown (r :: rows) = (if d.shows r.1 then [d.rowText r] else []) ++ d.rowsShown rows := by
  by_cases h : d.shows r.1 = true <;> simp [rowsShown, h]

/-- Rows of clauses in which two drafts do not differ are shown alike. -/
theorem rowsShown_congr {rows : List (Clause × String × String)}
    (h : ∀ r ∈ rows, d.shows r.1 = e.shows r.1 ∧ d.texts r.1 = e.texts r.1) :
    d.rowsShown rows = e.rowsShown rows := by
  unfold rowsShown
  rw [List.filter_congr fun r hr => (h r hr).1]
  refine List.map_congr_left fun r hr => ?_
  rw [rowText, rowText, (h r (List.mem_filter.1 hr).1).2]

/-- The segments of the clauses listed, of a draft of texts. -/
theorem segmentsOf_texts (h : d.AllTexts) (cs : List Clause) :
    d.segmentsOf cs = .ok (d.rowsShown (cs.map fun c => (c, c.keyword, c.separator))) := by
  induction cs with
  | nil => rfl
  | cons c rest ih =>
    rw [segmentsOf, segment_texts h, ih, List.map_cons, rowsShown_cons]
    cases d.shows c <;> rfl

/-- **The segments of a draft of texts** are those shown in the layout. -/
theorem segments_texts (h : d.AllTexts) : d.segments = .ok (d.rowsShown layout) :=
  segmentsOf_texts h Clause.statementOrder

/-- A clause that shows has its segment between those of the clauses before it and behind it. -/
theorem segments_of_shows (h : d.AllTexts) (hc : d.shows c = true) :
    d.segments = .ok (d.rowsShown c.rowsBefore
      ++ d.rowText (c, c.keyword, c.separator) :: d.rowsShown c.rowsBehind) := by
  rw [segments_texts h, layout_place c, rowsShown_append, rowsShown_cons, if_pos hc]
  rfl

theorem segments_of_not_shows (h : d.AllTexts) (hc : d.shows c = false) :
    d.segments = .ok (d.rowsShown c.rowsBefore ++ d.rowsShown c.rowsBehind) := by
  rw [segments_texts h, layout_place c, rowsShown_append, rowsShown_cons, hc]
  rfl

/-! ## A draft with one more fragment -/

/-- The draft with one more text in a clause. -/
def added (d : Draft) (c : Clause) (f : String) : Draft :=
  d.setFragments c (d.fragments c ++ [.text f])

theorem add_text (hf : Text.isBlankText f = false) (d : Draft) (c : Clause) :
    d.add c (.text f) = .ok (d.added c f) :=
  edit_add (f := .text f) hf c d

theorem texts_added_self (d : Draft) (c : Clause) (f : String) :
    (d.added c f).texts c = d.texts c ++ [f] := by
  simp [texts, added, Value.asText?]

theorem texts_added_of_ne {k : Clause} (h : k ≠ c) (d : Draft) (f : String) :
    (d.added c f).texts k = d.texts k := by
  rw [texts, added, fragments_setFragments_of_ne d h, texts]

theorem isEmptyAt_added_self (d : Draft) (c : Clause) (f : String) :
    (d.added c f).isEmptyAt c = false := by
  simp [isEmptyAt, added]

theorem isEmptyAt_added_of_ne {k : Clause} (h : k ≠ c) (d : Draft) (f : String) :
    (d.added c f).isEmptyAt k = d.isEmptyAt k := by
  rw [isEmptyAt, added, fragments_setFragments_of_ne d h, isEmptyAt]

theorem allTexts_added (h : d.AllTexts) (c : Clause) (f : String) : (d.added c f).AllTexts := by
  intro k g hg
  by_cases hk : k = c
  · subst hk
    rw [added, fragments_setFragments_self] at hg
    rcases List.mem_append.1 hg with hg | hg
    · exact h k g hg
    · exact ⟨f, List.mem_singleton.1 hg⟩
  · rw [added, fragments_setFragments_of_ne d hk] at hg
    exact h k g hg

/-- **The other clauses show as before**, but for joins that the first table was added to. -/
theorem shows_added_of_ne {k : Clause} (hk : k ≠ c)
    (hfirst : c = .source → k.isJoin = true → d.fragments .source ≠ []) (f : String) :
    (d.added c f).shows k = d.shows k := by
  rw [shows, shows, isEmptyAt_added_of_ne hk]
  by_cases hc : Clause.source = c
  · cases hjoin : k.isJoin with
    | false => rfl
    | true =>
      have htable : d.isEmptyAt .source = false :=
        Bool.eq_false_iff.2 (mt isEmptyAt_iff.1 (hfirst hc.symm hjoin))
      rw [htable, ← hc, isEmptyAt_added_self]
  · rw [isEmptyAt_added_of_ne hc]

theorem rowsShown_added {rows : List (Clause × String × String)} (hne : ∀ r ∈ rows, r.1 ≠ c)
    (hfirst : ∀ r ∈ rows, c = .source → r.1.isJoin = true → d.fragments .source ≠ [])
    (f : String) : (d.added c f).rowsShown rows = d.rowsShown rows :=
  rowsShown_congr fun r hr =>
    ⟨shows_added_of_ne (hne r hr) (hfirst r hr) f, texts_added_of_ne (hne r hr) d f⟩

theorem rowsShown_added_around (hfirst : c = .source → d.fragments .source ≠ []) (f : String) :
    (d.added c f).rowsShown c.rowsBefore = d.rowsShown c.rowsBefore
      ∧ (d.added c f).rowsShown c.rowsBehind = d.rowsShown c.rowsBehind :=
  ⟨rowsShown_added ne_of_mem_rowsBefore (fun _ _ hc _ => hfirst hc) f,
    rowsShown_added ne_of_mem_rowsBehind (fun _ _ hc _ => hfirst hc) f⟩

theorem rowText_added_of_ne_nil (h : d.texts c ≠ []) (f : String) :
    (d.added c f).rowText (c, c.keyword, c.separator)
      = d.rowText (c, c.keyword, c.separator) ++ c.separator ++ f := by
  rw [rowText, texts_added_self, String.intercalate_append_of_ne_nil h (List.cons_ne_nil f []),
    String.intercalate_singleton, rowText]
  simp only [String.append_assoc]

theorem rowText_added_of_eq_nil (h : d.texts c = []) (f : String) :
    (d.added c f).rowText (c, c.keyword, c.separator) = c.keyword ++ f := by
  rw [rowText, texts_added_self, h, List.nil_append, String.intercalate_singleton]

/-! ## Hidden joins -/

theorem shows_eq_true_iff :
    d.shows c = true
      ↔ d.fragments c ≠ [] ∧ (c.isJoin = true → d.fragments .source ≠ []) := by
  cases hjoin : c.isJoin <;> simp [shows, isEmptyAt, hjoin]

theorem fragments_source_added (hjoin : c.isJoin = true) (d : Draft) (f : String) :
    (d.added c f).fragments .source = d.fragments .source := by
  have hne : Clause.source ≠ c := by
    rintro rfl
    cases hjoin
  rw [added, fragments_setFragments_of_ne d hne]

theorem shows_of_eq_nil (hc : d.fragments c = []) : d.shows c = false :=
  Bool.eq_false_iff.2 fun h => (shows_eq_true_iff.1 h).1 hc

theorem shows_join_of_no_table (hjoin : c.isJoin = true) (hsource : d.fragments .source = []) :
    d.shows c = false :=
  Bool.eq_false_iff.2 fun h => (shows_eq_true_iff.1 h).2 hjoin hsource

/-- The rows of the joins. -/
def joinRows : List (Clause × String × String) :=
  [(.innerJoin, "", " "), (.leftJoin, "", " "), (.rightJoin, "", " ")]

/-- What stands in the layout behind the joins. -/
def rowsBehindJoins : List (Clause × String × String) := layout.drop 5

theorem rowsBehind_source : Clause.rowsBehind .source = joinRows ++ rowsBehindJoins := rfl

/-- **The segments of the joins** of a draft of texts: one for each kind that there are joins of,
with all of them in the order in which they were added. -/
def joinSegments (d : Draft) : List String :=
  (joinRows.filter fun r => d.texts r.1 ≠ []).map d.rowText

/-- **Without a table**, nothing is shown of the joins. -/
theorem rowsShown_behind_of_no_table (hsource : d.fragments .source = []) :
    d.rowsShown (Clause.rowsBehind .source) = d.rowsShown rowsBehindJoins := by
  have hjoin : ∀ r ∈ joinRows, r.1.isJoin = true := by decide
  have hhidden : d.rowsShown joinRows = [] := by
    rw [rowsShown, List.map_eq_nil_iff, List.filter_eq_nil_iff]
    intro r hr
    rw [shows_join_of_no_table (hjoin r hr) hsource]
    exact Bool.false_ne_true
  rw [rowsBehind_source, rowsShown_append, hhidden, List.nil_append]

/-- **With a table**, every kind of join is shown that there are joins of. -/
theorem rowsShown_behind_of_table (h : d.AllTexts) (hsource : d.fragments .source ≠ []) :
    d.rowsShown (Clause.rowsBehind .source) = d.joinSegments ++ d.rowsShown rowsBehindJoins := by
  have hshown : ∀ k : Clause, d.shows k = decide (d.texts k ≠ []) := by
    intro k
    rw [Bool.eq_iff_iff, shows_eq_true_iff, decide_eq_true_iff]
    exact (and_iff_left fun _ => hsource).trans (not_congr (texts_eq_nil_iff h).symm)
  have hjoins : d.rowsShown joinRows = d.joinSegments :=
    congrArg (List.map d.rowText) (List.filter_congr fun r _ => hshown r.1)
  rw [rowsBehind_source, rowsShown_append, hjoins]

/-- The other clauses hold the same texts after the first table as before. -/
theorem joinSegments_added (d : Draft) (f : String) :
    (d.added .source f).joinSegments = d.joinSegments := by
  have hne : ∀ r ∈ joinRows, r.1 ≠ .source := by decide
  unfold joinSegments
  rw [List.filter_congr fun r hr => by rw [texts_added_of_ne (hne r hr)]]
  refine List.map_congr_left fun r hr => ?_
  rw [rowText, rowText, texts_added_of_ne (hne r (List.mem_filter.1 hr).1)]

/-! ## Three ways to add -/

/-- **A fragment added in the open** shows at the place of its clause, and nothing else changes. -/
theorem segments_added_open (hd : d.AllTexts)
    (hopen : c = .source ∨ c.isJoin = true → d.fragments .source ≠ []) (f : String) :
    (d.added c f).segments = .ok (d.rowsShown c.rowsBefore
      ++ (d.added c f).rowText (c, c.keyword, c.separator) :: d.rowsShown c.rowsBehind) := by
  have hshows : (d.added c f).shows c = true := by
    refine shows_eq_true_iff.2 ⟨by simp [added], fun hjoin => ?_⟩
    rw [fragments_source_added hjoin]
    exact hopen (.inr hjoin)
  obtain ⟨hbefore, hbehind⟩ := rowsShown_added_around (fun hc => hopen (.inl hc)) f
  rw [segments_of_shows (allTexts_added hd c f) hshows, hbefore, hbehind]

/-- **A join added without a table** does not show. -/
theorem segments_added_hidden (hd : d.AllTexts) (hjoin : c.isJoin = true)
    (hsource : d.fragments .source = []) (f : String) :
    (d.added c f).segments = d.segments := by
  have hstill : (d.added c f).fragments .source = [] := by
    rw [fragments_source_added hjoin, hsource]
  have hother : c = .source → d.fragments .source ≠ [] := by
    rintro rfl
    cases hjoin
  obtain ⟨hbefore, hbehind⟩ := rowsShown_added_around hother f
  rw [segments_of_not_shows hd (shows_join_of_no_table hjoin hsource),
    segments_of_not_shows (allTexts_added hd c f) (shows_join_of_no_table hjoin hstill), hbefore,
    hbehind]

/-- **The first table** brings the joins along that were added before it. -/
theorem segments_added_first_table (hd : d.AllTexts) (hsource : d.fragments .source = [])
    (f : String) :
    (d.added .source f).segments = .ok (d.rowsShown (Clause.rowsBefore .source)
      ++ ("FROM " ++ f) :: d.joinSegments ++ d.rowsShown rowsBehindJoins) := by
  have htable : (d.added .source f).fragments .source ≠ [] := by simp [added]
  have hshows : (d.added .source f).shows .source = true :=
    shows_eq_true_iff.2 ⟨htable, fun hjoin => by cases hjoin⟩
  have hafter := allTexts_added hd .source f
  -- the joins are the only rows that the first table makes a difference to
  have hbefore : ∀ r ∈ Clause.rowsBefore .source, r.1.isJoin = false := by decide
  have hbehind : ∀ r ∈ rowsBehindJoins, r.1 ≠ .source ∧ r.1.isJoin = false := by decide
  rw [segments_of_shows hafter hshows, rowsShown_behind_of_table hafter htable,
    rowText_added_of_eq_nil ((texts_eq_nil_iff hd).2 hsource), joinSegments_added,
    rowsShown_added ne_of_mem_rowsBefore fun r hr _ hjoin => by simp [hbefore r hr] at hjoin,
    rowsShown_added (fun r hr => (hbehind r hr).1)
      fun r hr _ hjoin => by simp [(hbehind r hr).2] at hjoin, List.append_assoc]
  rfl

/-! ## Adding is local -/

/-- **Adding is local.** Every text that is not blank is added to every clause of a draft of texts,
and then one thing has changed in the segments. A clause that is not a join, or for which there is a
table, has the separator and the text at the end of its segment, or else a new segment at its place,
between those of the clauses before and behind it. A join without a table leaves the statement as it
is. The first table has its segment behind that of the selected columns, and behind it come the
segments of the joins. -/
theorem segments_add (hd : d.AllTexts) (c : Clause) (hf : Text.isBlankText f = false) :
    ∃ d', d.add c (.text f) = .ok d'
      ∧ layout = c.rowsBefore ++ (c, c.keyword, c.separator) :: c.rowsBehind
      ∧ ((c = .source ∨ c.isJoin = true → d.fragments .source ≠ []) →
          (d.fragments c ≠ [] →
            d.segments = .ok (d.rowsShown c.rowsBefore
                ++ d.rowText (c, c.keyword, c.separator) :: d.rowsShown c.rowsBehind)
              ∧ d'.segments = .ok (d.rowsShown c.rowsBefore
                ++ (d.rowText (c, c.keyword, c.separator) ++ c.separator ++ f)
                  :: d.rowsShown c.rowsBehind))
          ∧ (d.fragments c = [] →
            d.segments = .ok (d.rowsShown c.rowsBefore ++ d.rowsShown c.rowsBehind)
              ∧ d'.segments = .ok (d.rowsShown c.rowsBefore
                ++ (c.keyword ++ f) :: d.rowsShown c.rowsBehind)))
      ∧ (c.isJoin = true → d.fragments .source = [] →
          d'.segments = d.segments ∧ d'.statement = d.statement)
      ∧ (c = .source → d.fragments .source = [] →
          d.segments = .ok (d.rowsShown [(.select, "SELECT ", ", ")]
              ++ d.rowsShown rowsBehindJoins)
            ∧ d'.segments = .ok (d.rowsShown [(.select, "SELECT ", ", ")]
              ++ ("FROM " ++ f) :: d.joinSegments ++ d.rowsShown rowsBehindJoins)) := by
  refine ⟨d.added c f, add_text hf d c, layout_place c, fun hopen => ?_, fun hjoin hsource => ?_,
    fun hc hsource => ?_⟩
  · rw [segments_added_open hd hopen]
    refine ⟨fun hc => ⟨?_, ?_⟩, fun hc => ⟨?_, ?_⟩⟩
    · exact segments_of_shows hd (shows_eq_true_iff.2 ⟨hc, fun hjoin => hopen (.inr hjoin)⟩)
    · rw [rowText_added_of_ne_nil (mt (texts_eq_nil_iff hd).1 hc)]
    · exact segments_of_not_shows hd (shows_of_eq_nil hc)
    · rw [rowText_added_of_eq_nil ((texts_eq_nil_iff hd).2 hc)]
  · have hsegments := segments_added_hidden hd hjoin hsource f
    exact ⟨hsegments, by rw [statement, statement, hsegments]⟩
  · subst hc
    refine ⟨?_, segments_added_first_table hd hsource f⟩
    rw [segments_of_not_shows hd (shows_of_eq_nil hsource), rowsShown_behind_of_no_table hsource]
    rfl

/-- The first table shows itself and two kinds of joins. -/
theorem segments_add_first_table :
    let d : Draft :=
      { select := [.text "*"], filter := [.text "n > 1"],
        innerJoin := [.text "INNER JOIN `b` ON x"],
        rightJoin := [.text "RIGHT JOIN `c` ON y", .text "RIGHT JOIN `d` ON z"] }
    d.AllTexts ∧ Text.isBlankText "`a`" = false
      ∧ d.segments = .ok ["SELECT *", "WHERE n > 1"]
      ∧ ∃ d', d.add .source (.text "`a`") = .ok d'
        ∧ d'.segments = .ok ["SELECT *", "FROM `a`", "INNER JOIN `b` ON x",
            "RIGHT JOIN `c` ON y RIGHT JOIN `d` ON z", "WHERE n > 1"] := by
  intro d
  have hd : d.AllTexts := by
    intro c
    cases c <;> simp [d, fragments]
  have hf : Text.isBlankText "`a`" = false := by decide
  obtain ⟨d', hadd, -, -, -, hfirst⟩ := segments_add hd .source hf
  obtain ⟨hbefore, hafter⟩ := hfirst rfl rfl
  exact ⟨hd, hf, hbefore.trans rfl, d', hadd, hafter.trans rfl⟩

end Draft

end SqlText
