import SqlText.HandOff
import SqlText.Proofs.Draft.Edits
import SqlText.Statement

/-!
# Statements are fit to be handed off

Whoever takes a statement over drops the blanks around it before looking at it, and a fragment may
begin or end with blanks, or with a semicolon, or look like nothing at all. None of that reaches
either end of a statement: the semicolon at the end is the library's, and in front stands the
keyword of the first clause that is shown, which is no join, since a join is shown only behind a
table to join to (`statement_cases`). So nothing is ever trimmed off a statement, and it is refused
only where it is the semicolon alone (`check_statement`).
-/

namespace SqlText

namespace Text

variable {cs : List Char}

theorem dropBlanks_eq_self (h : ∀ c ∈ cs.head?, isBlankChar c = false) :
    cs.dropWhile isBlankChar = cs := by
  cases cs with
  | nil => rfl
  | cons c rest => simp [h c rfl]

/-- **Nothing is trimmed off a text that has no blank at either end.** -/
theorem trimBlanks_eq_self (hfront : ∀ c ∈ cs.head?, isBlankChar c = false)
    (hback : ∀ c ∈ cs.getLast?, isBlankChar c = false) : trimBlanks cs = cs := by
  unfold trimBlanks
  rw [dropBlanks_eq_self hfront, dropBlanks_eq_self (by rwa [List.head?_reverse]),
    List.reverse_reverse]

end Text

theorem Clause.mem_statementOrder (c : Clause) : c ∈ Clause.statementOrder := by
  cases c <;> decide

namespace Draft

variable {d : Draft} {c : Clause} {cs : List Clause} {s : String}

/-! ## Both ends of a statement -/

/-- The segment of a clause starts with its keyword. -/
theorem keyword_of_segment (h : d.segment c = .ok s) : ∃ rest, s = c.keyword ++ rest := by
  unfold segment at h
  cases hjoined : joinTexts c.separator (d.fragments c) with
  | error e => simp [hjoined, Except.map] at h
  | ok t =>
    rw [hjoined] at h
    exact ⟨t, (Except.ok.inj h).symm⟩

/-- The segments of some clauses: none where none of them is shown, and otherwise that of the first
one shown in front. -/
theorem segmentsOf_cases {ss : List String} (h : d.segmentsOf cs = .ok ss) :
    (ss = [] ∧ ∀ c ∈ cs, d.shows c = false)
      ∨ ∃ c rest ss', cs.find? d.shows = some c ∧ ss = (c.keyword ++ rest) :: ss' := by
  induction cs generalizing ss with
  | nil => exact .inl ⟨(Except.ok.inj h).symm, by simp⟩
  | cons c rest ih =>
    rw [segmentsOf] at h
    cases hshows : d.shows c with
    | false =>
      rw [hshows] at h
      rcases ih h with ⟨hnil, hnone⟩ | ⟨e, t, ss', hfind, hss⟩
      · exact .inl ⟨hnil, List.forall_mem_cons.2 ⟨hshows, hnone⟩⟩
      · exact .inr ⟨e, t, ss', by rwa [List.find?_cons_of_neg (by simp [hshows])], hss⟩
    | true =>
      rw [hshows, if_pos rfl] at h
      split at h
      · cases h
      · next s hsegment =>
        obtain ⟨t, rfl⟩ := keyword_of_segment hsegment
        cases hrest : d.segmentsOf rest with
        | error e => simp [hrest, Except.map] at h
        | ok ss' =>
          rw [hrest] at h
          exact .inr ⟨c, t, ss', List.find?_cons_of_pos hshows, (Except.ok.inj h).symm⟩

/-- **The first clause shown is no join**: there is a table in front of it. -/
theorem isJoin_of_first (h : Clause.statementOrder.find? d.shows = some c) : c.isJoin = false := by
  cases hj : c.isJoin with
  | false => rfl
  | true =>
    have hc : d.shows c = true := List.find?_some h
    have hsource : d.shows .source = true := by
      simp only [shows, hj, Bool.true_and, Bool.and_eq_true] at hc
      simpa [shows, Clause.isJoin] using hc.2
    -- so the search ends at the table, if not before it
    rw [Clause.statementOrder, List.find?_cons] at h
    split at h
    · obtain rfl := Option.some.inj h
      cases hj
    · rw [List.find?_cons_of_pos hsource] at h
      obtain rfl := Option.some.inj h
      cases hj

/-- **What a statement starts with**: it is the semicolon alone where no clause is shown, and
otherwise it starts with the keyword of a clause that is no join. -/
theorem statement_cases (h : d.statement = .ok s) :
    ((∀ c, d.shows c = false) ∧ s = ";")
      ∨ ∃ c rest, d.shows c = true ∧ c.isJoin = false ∧ s = c.keyword ++ (rest ++ ";") := by
  unfold statement at h
  cases hsegments : d.segments with
  | error e => simp [hsegments, Except.map] at h
  | ok ss =>
    rw [hsegments] at h
    obtain rfl := Except.ok.inj h
    rcases segmentsOf_cases hsegments with ⟨rfl, hnone⟩ | ⟨c, rest, ss', hfind, rfl⟩
    · exact .inl ⟨fun c => hnone c c.mem_statementOrder, rfl⟩
    · refine .inr ⟨c, ?_, List.find?_some hfind, isJoin_of_first hfind, ?_⟩
      · exact if ss' = [] then rest else rest ++ " " ++ String.intercalate " " ss'
      · cases ss' with
        | nil => simp [terminator, String.append_assoc]
        | cons t ss' => simp [terminator, String.append_assoc]

theorem keyword_head (h : c.isJoin = false) :
    ∃ a rest, c.keyword.toList = a :: rest ∧ Text.isBlankChar a = false ∧ a ≠ ';' := by
  cases c with
  | innerJoin | leftJoin | rightJoin => cases h
  | _ => exact ⟨_, _, rfl, by decide, by decide⟩

/-- The statement is the semicolon alone exactly where no clause is shown. -/
theorem eq_semicolon_iff (h : d.statement = .ok s) : s = ";" ↔ ∀ c, d.shows c = false := by
  rcases statement_cases h with ⟨hnone, rfl⟩ | ⟨c, rest, hshows, hj, rfl⟩
  · exact ⟨fun _ => hnone, fun _ => rfl⟩
  · obtain ⟨a, front, hkeyword, -, ha⟩ := keyword_head hj
    constructor
    · intro heq
      have hhead := congrArg (fun t => t.toList.head?) heq
      simp [hkeyword, ha] at hhead
    · exact fun hnone => absurd hshows (by simp [hnone c])

/-- Nothing is trimmed off a statement. -/
theorem trim_statement (h : d.statement = .ok s) : Text.trimBlanks s.toList = s.toList := by
  rcases statement_cases h with ⟨-, rfl⟩ | ⟨c, rest, -, hj, rfl⟩
  · decide
  · obtain ⟨a, front, hkeyword, hblank, -⟩ := keyword_head hj
    refine Text.trimBlanks_eq_self ?_ ?_
    · simp [hkeyword, hblank]
    · have hsemicolon : Text.isBlankChar ';' = false := by decide
      simp [hsemicolon]

theorem getLast?_statement (h : d.statement = .ok s) : s.toList.getLast? = some ';' := by
  rcases statement_cases h with ⟨-, rfl⟩ | ⟨c, rest, -, -, rfl⟩
  · rfl
  · simp

/-- **A statement is fit to be handed off unless it is the semicolon alone.** -/
theorem check_statement (h : d.statement = .ok s) :
    HandOff.check (.text s) = if s = ";" then .error .empty else .ok s := by
  have hne : s.toList ≠ [] := by
    intro hnil
    have hlast := getLast?_statement h
    rw [hnil] at hlast
    cases hlast
  have hsemicolon : s.toList = [';'] ↔ s = ";" := by
    rw [← String.toList_inj]
    rfl
  unfold HandOff.check
  simp only [trim_statement h, getLast?_statement h, hne, hsemicolon, false_or, if_true]

end Draft

end SqlText
