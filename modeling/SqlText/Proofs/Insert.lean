import SqlText.Insert
import SqlText.Proofs.Statement.References

/-!
# Reading insert statements back

An insert statement holds three texts of any length with nothing between them but punctuation, and
none of them is escaped. It still tells what they are (`parts_of_statement`) as long as each ends
where the next is expected to begin: the table at the first backtick, the columns at the first
closing parenthesis, and the values, which may hold either, at the end of the statement.

Within a list the members are told apart by the comma and the space between two. **A member that
does not hold the two side by side may still end with a comma or start with a space**: the first
place where they stand side by side is the end of the member all the same (`member_cancel`). A list
of one empty text would be written like an empty list, so members are not empty.
-/

namespace SqlText.Insert

variable {a b x y : List Char} {xs ys : List (List Char)}

/-! ## Lists -/

/-- The characters between two members. -/
def comma : List Char := [',', ' ']

/-- Where the separator is found right behind the start of a member, that is the whole member,
unless the member holds the separator. -/
theorem eq_nil_of_comma {m : List Char} (h : comma ++ x = m ++ (comma ++ y))
    (hm : ¬ comma <:+: a ++ m) : m = [] := by
  cases m with
  | nil => rfl
  | cons c rest =>
    obtain ⟨rfl, htail⟩ := List.cons.inj h
    cases rest with
    -- a comma that is the last character of the member has another comma behind it, and no space
    | nil => exact absurd (List.cons.inj htail).1 (by decide)
    | cons d rest =>
      obtain ⟨rfl, -⟩ := List.cons.inj htail
      exact absurd ⟨a, rest, by simp [comma]⟩ hm

/-- **A text starts with one member at most** that the separator follows. -/
theorem member_cancel (ha : ¬ comma <:+: a) (hb : ¬ comma <:+: b)
    (h : a ++ (comma ++ x) = b ++ (comma ++ y)) : a = b ∧ x = y := by
  rcases List.append_eq_append_iff.1 h with ⟨m, rfl, hm⟩ | ⟨m, rfl, hm⟩
  · obtain rfl := eq_nil_of_comma hm hb
    exact ⟨(List.append_nil a).symm, List.append_cancel_left hm⟩
  · obtain rfl := eq_nil_of_comma hm ha
    exact ⟨List.append_nil b, (List.append_cancel_left hm).symm⟩

/-- Members with the separator behind each. -/
def separated (xs : List (List Char)) : List Char := xs.flatMap (· ++ comma)

/-- A list of members, and one more separator. -/
theorem intercalate_append_comma (hne : xs ≠ []) :
    comma.intercalate xs ++ comma = separated xs := by
  induction xs with
  | nil => exact absurd rfl hne
  | cons x rest ih =>
    cases rest with
    | nil => simp [separated]
    | cons y rest =>
      rw [List.intercalate_cons_cons, separated, List.flatMap_cons, List.append_assoc,
        List.append_assoc, ih (List.cons_ne_nil _ _), separated, List.append_assoc]

/-- Members with the separator behind each are told apart. -/
theorem separated_inj (hxs : ∀ x ∈ xs, ¬ comma <:+: x) (hys : ∀ y ∈ ys, ¬ comma <:+: y)
    (h : separated xs = separated ys) : xs = ys := by
  induction xs generalizing ys with
  | nil =>
    cases ys with
    | nil => rfl
    | cons y rest => exact absurd h.symm (by simp [separated, comma])
  | cons x rest ih =>
    cases ys with
    | nil => exact absurd h (by simp [separated, comma])
    | cons y rest' =>
      simp only [separated, List.flatMap_cons, List.append_assoc] at h
      obtain ⟨rfl, htail⟩ := member_cancel (hxs x List.mem_cons_self) (hys y List.mem_cons_self) h
      rw [ih (fun x hx => hxs x (List.mem_cons_of_mem _ hx))
        (fun y hy => hys y (List.mem_cons_of_mem _ hy)) htail]

/-- Members that are not empty are not written as nothing. -/
theorem eq_nil_of_intercalate (hxs : ∀ x ∈ xs, x ≠ []) (h : comma.intercalate xs = []) :
    xs = [] := by
  cases xs with
  | nil => rfl
  | cons x rest =>
    have hx := hxs x List.mem_cons_self
    cases rest with
    | nil => exact absurd (by simpa using h) hx
    | cons y rest =>
      rw [List.intercalate_cons_cons] at h
      exact absurd (List.append_eq_nil_iff.1 (List.append_eq_nil_iff.1 h).1).1 hx

/-- **Lists of members that are written alike are the same.** -/
theorem intercalate_inj (hxs : ∀ x ∈ xs, x ≠ [] ∧ ¬ comma <:+: x)
    (hys : ∀ y ∈ ys, y ≠ [] ∧ ¬ comma <:+: y)
    (h : comma.intercalate xs = comma.intercalate ys) : xs = ys := by
  by_cases hx : xs = []
  · subst hx
    exact (eq_nil_of_intercalate (fun y hy => (hys y hy).1) (by simpa using h.symm)).symm
  · by_cases hy : ys = []
    · subst hy
      exact eq_nil_of_intercalate (fun x hx => (hxs x hx).1) (by simpa using h)
    · refine separated_inj (fun x hx => (hxs x hx).2) (fun y hy => (hys y hy).2) ?_
      rw [← intercalate_append_comma hx, ← intercalate_append_comma hy, h]

/-- A character that is in no member and is none of the separator's is not in the list. -/
theorem notMem_intercalate {c : Char} (hc : c ∉ comma) (hxs : ∀ x ∈ xs, c ∉ x) :
    c ∉ comma.intercalate xs := by
  intro hmem
  by_cases hx : xs = []
  · subst hx
    simp at hmem
  · have hseparated : c ∈ separated xs := by
      rw [← intercalate_append_comma hx]
      exact List.mem_append_left _ hmem
    obtain ⟨x, hxmem, hcx⟩ := List.mem_flatMap.1 hseparated
    rcases List.mem_append.1 hcx with hcx | hcx
    · exact hxs x hxmem hcx
    · exact hc hcx

/-! ## Statements -/

/-- A text can be **told apart** in a list: it is not empty and does not hold the separator. -/
def IsMember (s : String) : Prop := s.toList ≠ [] ∧ ¬ comma <:+: s.toList

instance : DecidablePred IsMember :=
  fun _ => inferInstanceAs (Decidable (_ ∧ _))

theorem toList_intercalate_comma (ss : List String) :
    (String.intercalate ", " ss).toList = comma.intercalate (ss.map String.toList) :=
  String.toList_intercalate

/-- The statement for texts is always written. -/
theorem statement_texts (table : String) (columns values : List String) :
    statement (.text table) (.list (columns.map .text)) (.list (values.map .text))
      = .ok (layout (.text table) (String.intercalate ", " columns)
          (String.intercalate ", " values)) := by
  have hlist : ∀ ss : List String,
      commaList (.list (ss.map .text)) = .ok (String.intercalate ", " ss) := by
    intro ss
    simp only [commaList, Value.elements?, joinTexts_map_text]
    rfl
  rw [statement, hlist, hlist]
  rfl

/-- The characters of a statement: the three texts, each with the character behind it at which it
ends. -/
theorem toList_layout (table columns values : String) :
    (layout (.text table) columns values).toList
      = "INSERT INTO ".toList ++ '`' :: (table.toList ++ '`' :: (" (".toList
        ++ (columns.toList ++ ')' :: ("VALUES (".toList ++ (values.toList ++ ");".toList))))) := by
  unfold layout quoteIdentifier
  simp only [Value.toText_text, String.toList_append, List.append_assoc]
  rfl

/-- **The three texts of a statement** are told apart, if the table holds no backtick and the
columns hold no closing parenthesis. -/
theorem layout_cancel {t t' columns columns' values values' : String} (ht : '`' ∉ t.toList)
    (ht' : '`' ∉ t'.toList) (hcolumns : ')' ∉ columns.toList) (hcolumns' : ')' ∉ columns'.toList)
    (h : layout (.text t) columns values = layout (.text t') columns' values') :
    t = t' ∧ columns = columns' ∧ values = values' := by
  have hchars := congrArg String.toList h
  rw [toList_layout, toList_layout] at hchars
  have hbehind := (List.cons.inj (List.append_cancel_left hchars)).2
  obtain ⟨htable, hbehind⟩ := upTo_cancel ht ht' hbehind
  obtain ⟨hcols, hbehind⟩ := upTo_cancel hcolumns hcolumns' (List.append_cancel_left hbehind)
  have hvals := List.append_cancel_right (List.append_cancel_left hbehind)
  exact ⟨String.toList_inj.1 htable, String.toList_inj.1 hcols, String.toList_inj.1 hvals⟩

/-- Lists of texts that are written alike are the same. -/
theorem intercalate_comma_inj {ss ss' : List String} (hss : ∀ s ∈ ss, IsMember s)
    (hss' : ∀ s ∈ ss', IsMember s)
    (h : String.intercalate ", " ss = String.intercalate ", " ss') : ss = ss' := by
  have hchars := congrArg String.toList h
  rw [toList_intercalate_comma, toList_intercalate_comma] at hchars
  have hmembers : ∀ {ls : List String}, (∀ s ∈ ls, IsMember s) →
      ∀ x ∈ ls.map String.toList, x ≠ [] ∧ ¬ comma <:+: x := by
    intro ls hls x hx
    obtain ⟨s, hs, rfl⟩ := List.mem_map.1 hx
    exact hls s hs
  exact (List.map_inj_right fun _ _ => String.toList_inj.1).1
    (intercalate_inj (hmembers hss) (hmembers hss') hchars)

theorem notMem_columns {ss : List String} (h : ∀ s ∈ ss, ')' ∉ s.toList) :
    ')' ∉ (String.intercalate ", " ss).toList := by
  rw [toList_intercalate_comma]
  refine notMem_intercalate (by decide) fun x hx => ?_
  obtain ⟨s, hs, rfl⟩ := List.mem_map.1 hx
  exact h s hs

/-- **A statement tells its table, its columns and its values**: where two statements are the same,
so are all three, however many columns and values there are. Only the table must hold no backtick
and the columns no closing parenthesis, and no member of a list may be empty or hold the separator;
values may look like the text around them. -/
theorem parts_of_statement {t t' : String} {columns columns' values values' : List String}
    (ht : '`' ∉ t.toList) (ht' : '`' ∉ t'.toList)
    (hcolumns : ∀ s ∈ columns, IsMember s ∧ ')' ∉ s.toList)
    (hcolumns' : ∀ s ∈ columns', IsMember s ∧ ')' ∉ s.toList)
    (hvalues : ∀ s ∈ values, IsMember s) (hvalues' : ∀ s ∈ values', IsMember s)
    (h : statement (.text t) (.list (columns.map .text)) (.list (values.map .text))
      = statement (.text t') (.list (columns'.map .text)) (.list (values'.map .text))) :
    t = t' ∧ columns = columns' ∧ values = values' := by
  rw [statement_texts, statement_texts] at h
  obtain ⟨htable, hcols, hvals⟩ := layout_cancel ht ht'
    (notMem_columns fun s hs => (hcolumns s hs).2) (notMem_columns fun s hs => (hcolumns' s hs).2)
    (Except.ok.inj h)
  exact ⟨htable,
    intercalate_comma_inj (fun s hs => (hcolumns s hs).1) (fun s hs => (hcolumns' s hs).1) hcols,
    intercalate_comma_inj hvalues hvalues' hvals⟩

/-- A column that ends with a comma before one that starts with a space, and values that look like
the rest of a statement. The same parts put together in another way are found again, and the values
in another order are another statement. -/
theorem parts_of_statement_edges :
    let columns := ["c,", " d"]
    let columns' := ["c", " "].zipWith (· ++ ·) [",", "d"]
    let values := ["1)VALUES (2", ");", ","]
    let values' := [",", ");", "1)VALUES (" ++ toString 2].reverse
    statement (.text "a (b") (.list (columns.map .text)) (.list (values.map .text))
        = .ok "INSERT INTO `a (b` (c,,  d)VALUES (1)VALUES (2, );, ,);"
      ∧ ("a (b" = "a " ++ "(b" ∧ columns = columns' ∧ values = values')
      ∧ statement (.text "a (b") (.list (columns.map .text)) (.list (values.map .text))
        ≠ statement (.text "a (b") (.list (columns.map .text))
          (.list (values.reverse.map .text)) := by
  have htable : '`' ∉ "a (b".toList := by decide
  have hcolumns : ∀ s ∈ ["c,", " d"], IsMember s ∧ ')' ∉ s.toList := by decide
  have hvalues : ∀ s ∈ ["1)VALUES (2", ");", ","], IsMember s := by decide +kernel
  intro columns columns' values values'
  refine ⟨(statement_texts _ _ _).trans rfl, ?_, fun hsame => ?_⟩
  · have htable' : '`' ∉ ("a " ++ "(b").toList := by decide
    have hcolumns' : ∀ s ∈ columns', IsMember s ∧ ')' ∉ s.toList := by decide
    have hvalues' : ∀ s ∈ values', IsMember s := by decide +kernel
    have hwritten : statement (.text "a (b") (.list (columns.map .text)) (.list (values.map .text))
        = statement (.text ("a " ++ "(b")) (.list (columns'.map .text))
          (.list (values'.map .text)) := rfl
    exact parts_of_statement htable htable' hcolumns hcolumns' hvalues hvalues' hwritten
  · have hreverse : ∀ s ∈ values.reverse, IsMember s := fun s hs =>
      hvalues s (List.mem_reverse.1 hs)
    have hparts := parts_of_statement htable htable hcolumns hcolumns hvalues hreverse hsame
    exact absurd hparts.2.2 (by decide)

end SqlText.Insert
