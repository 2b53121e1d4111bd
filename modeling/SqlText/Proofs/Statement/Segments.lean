import SqlText.Proofs.Draft.Edits
import SqlText.Statement

/-!
# The segments of a draft of texts

Where every fragment is a text, nothing stands in the way of joining them, and the segments can be
written down: go through the layout of a statement, leave out the clauses that have no fragment, and
put the fragments of every other behind its keyword (`plainSegmentsOf_texts`).

This is said of the segments without the condition that joins need a table to join to
(`plainSegmentsOf`). Only a draft that holds joins and no table tells the two apart
(`segmentsOf_eq_plain`).
-/

namespace SqlText

/-- **The layout of a statement**: its clauses in the order of their segments, what stands before
the fragments of each, and what stands between two. -/
def layout : List (Clause × String × String) :=
  [(.select, "SELECT ", ", "), (.source, "FROM ", ", "), (.innerJoin, "", " "),
    (.leftJoin, "", " "), (.rightJoin, "", " "), (.filter, "WHERE ", " "),
    (.groupBy, "GROUP BY ", ", "), (.sortBy, "SORT BY ", ", "), (.having, "HAVING ", " ")]

theorem layout_eq :
    layout = Clause.statementOrder.map fun c => (c, c.keyword, c.separator) := rfl

/-- **Texts laid out**: of every clause that has any, its texts behind its keyword. -/
def laidOut (texts : Clause → List String) : List String :=
  (layout.filter fun row => texts row.1 ≠ []).map fun row =>
    row.2.1 ++ String.intercalate row.2.2 (texts row.1)

namespace Draft

variable {d : Draft}

/-! ## Drafts of texts -/

/-- The texts among the fragments of a clause. -/
def texts (d : Draft) (c : Clause) : List String := (d.fragments c).filterMap Value.asText?

/-- Every fragment of the draft is a text. -/
def AllTexts (d : Draft) : Prop := ∀ c, ∀ f ∈ d.fragments c, ∃ s, f = .text s

/-- Fragments that are texts are their texts. -/
theorem fragments_eq_texts (h : d.AllTexts) (c : Clause) :
    d.fragments c = (d.texts c).map Value.text := by
  have hfs := h c
  unfold texts
  generalize d.fragments c = fs at hfs
  induction fs with
  | nil => rfl
  | cons f rest ih =>
    obtain ⟨s, rfl⟩ := hfs f List.mem_cons_self
    exact congrArg (.text s :: ·) (ih fun f hf => hfs f (List.mem_cons_of_mem _ hf))

theorem texts_eq_nil_iff (h : d.AllTexts) {c : Clause} :
    d.texts c = [] ↔ d.fragments c = [] := by
  rw [fragments_eq_texts h, List.map_eq_nil_iff]

/-! ## Segments without a condition on joins -/

/-- The segments of the clauses listed, one for each that has fragments. -/
def plainSegmentsOf (d : Draft) : List Clause → Except NotText (List String)
  | [] => .ok []
  | c :: rest =>
    if d.isEmptyAt c then plainSegmentsOf d rest
    else
      match d.segment c with
      | .error e => .error e
      | .ok s => (plainSegmentsOf d rest).map (s :: ·)

/-- Joins are shown like every other clause where there is a table to join to. -/
theorem shows_eq (h : ∀ c, c.isJoin = true → d.fragments c ≠ [] → d.fragments .source ≠ [])
    (c : Clause) : d.shows c = !d.isEmptyAt c := by
  unfold shows
  cases hj : c.isJoin with
  | false => simp
  | true =>
    by_cases hc : d.fragments c = []
    · rw [isEmptyAt_iff.2 hc]
      rfl
    · have hsource : d.isEmptyAt .source = false :=
        Bool.eq_false_iff.2 (mt isEmptyAt_iff.1 (h c hj hc))
      simp [hsource]

/-- **The condition on joins makes no difference** where joins have a table to join to. -/
theorem segmentsOf_eq_plain
    (h : ∀ c, c.isJoin = true → d.fragments c ≠ [] → d.fragments .source ≠ [])
    (cs : List Clause) : d.segmentsOf cs = d.plainSegmentsOf cs := by
  induction cs with
  | nil => rfl
  | cons c rest ih =>
    rw [segmentsOf, plainSegmentsOf, shows_eq h, ih]
    cases d.isEmptyAt c <;> rfl

/-- Joins that were put into a draft without a table vanish. -/
example :
    let d : Draft := { innerJoin := [.text "INNER JOIN `b` ON x"] }
    d.segmentsOf Clause.statementOrder = .ok []
      ∧ d.plainSegmentsOf Clause.statementOrder = .ok ["INNER JOIN `b` ON x"] :=
  ⟨rfl, rfl⟩

theorem segment_texts (h : d.AllTexts) (c : Clause) :
    d.segment c = .ok (c.keyword ++ String.intercalate c.separator (d.texts c)) := by
  rw [segment, fragments_eq_texts h, joinTexts_map_text]
  rfl

/-- **The segments of a draft of texts**, one for each clause that has any. -/
theorem plainSegmentsOf_texts (h : d.AllTexts) (cs : List Clause) :
    d.plainSegmentsOf cs
      = .ok ((cs.filter fun c => d.texts c ≠ []).map fun c =>
          c.keyword ++ String.intercalate c.separator (d.texts c)) := by
  induction cs with
  | nil => rfl
  | cons c rest ih =>
    have hempty : d.isEmptyAt c = true ↔ d.texts c = [] :=
      isEmptyAt_iff.trans (texts_eq_nil_iff h).symm
    rw [plainSegmentsOf, segment_texts h, ih]
    by_cases hc : d.texts c = []
    · rw [if_pos (hempty.2 hc), List.filter_cons_of_neg (by simpa using hc)]
    · rw [if_neg (mt hempty.1 hc), List.filter_cons_of_pos (by simpa using hc)]
      rfl

theorem plainSegmentsOf_statementOrder (h : d.AllTexts) :
    d.plainSegmentsOf Clause.statementOrder = .ok (laidOut d.texts) := by
  rw [plainSegmentsOf_texts h, laidOut, layout_eq, List.filter_map, List.map_map]
  rfl

end Draft

end SqlText
