import Mathlib.Data.List.Basic
import SqlText.Proofs.Statement.Segments

/-!
# Reading references back

A fragment that is written from the names of tables and columns alone is a **reference**: a star, a
quoted name, or the quoted name of a column behind that of its table. Nothing in a name is escaped,
so a name may hold commas, points and whole clauses; but as long as it holds no backtick, the next
backtick is the end of it. Hence a text that starts with a reference starts with no other
(`Reference.chars_cancel`), a list of them ends where no comma follows (`listed_cancel`), and a
statement whose clauses hold references and nothing else tells what they are
(`references_of_statement`).

The clauses are told apart by their keywords, none of which starts with another. A keyword inside
a name does no harm: by the time it comes, the name around it is being read.
-/

namespace SqlText

/-! ## References -/

/-- What a fragment that is written from names alone refers to. -/
inductive Reference where
  /-- Every column. -/
  | all
  /-- A table or a column. -/
  | name (n : String)
  /-- A column of a table. -/
  | column (table n : String)
  deriving DecidableEq, Repr

namespace Reference

/-- A reference as it is written. -/
def text : Reference → String
  | .all => "*"
  | .name n => "`" ++ n ++ "`"
  | .column table n => "`" ++ table ++ "`.`" ++ n ++ "`"

/-- **No name in the reference has a backtick in it.** -/
def Plain : Reference → Prop
  | .all => True
  | .name n => '`' ∉ n.toList
  | .column table n => '`' ∉ table.toList ∧ '`' ∉ n.toList

/-- The characters of a reference. -/
def chars : Reference → List Char
  | .all => ['*']
  | .name n => '`' :: (n.toList ++ ['`'])
  | .column table n => '`' :: (table.toList ++ '`' :: '.' :: '`' :: (n.toList ++ ['`']))

/-- They are those of its text. -/
theorem toList_text (r : Reference) : r.text.toList = r.chars := by
  cases r with
  | all => rfl
  | name n => simp [text, chars]
  | column table n =>
    rw [text, show "`.`" = "`" ++ "." ++ "`" from rfl]
    simp [chars]

end Reference

/-- A text up to the first of some character is told by what it starts with. -/
theorem upTo_cancel {c : Char} {a b x y : List Char} (ha : c ∉ a) (hb : c ∉ b)
    (h : a ++ c :: x = b ++ c :: y) : a = b ∧ x = y := by
  induction a generalizing b with
  | nil =>
    cases b with
    | nil => exact ⟨rfl, (List.cons.inj h).2⟩
    | cons d rest => exact absurd (by rw [← (List.cons.inj h).1]; exact List.mem_cons_self) hb
  | cons d rest ih =>
    cases b with
    | nil => exact absurd (by rw [(List.cons.inj h).1]; exact List.mem_cons_self) ha
    | cons d' rest' =>
      obtain ⟨rfl, htail⟩ := List.cons.inj h
      obtain ⟨rfl, hxy⟩ := ih (fun hm => ha (List.mem_cons_of_mem _ hm))
        (fun hm => hb (List.mem_cons_of_mem _ hm)) htail
      exact ⟨rfl, hxy⟩

/-- **A text starts with one reference at most**, if no point follows that might belong to it. -/
theorem Reference.chars_cancel {r s : Reference} (hr : r.Plain) (hs : s.Plain) {x y : List Char}
    (hx : x.head? ≠ some '.') (hy : y.head? ≠ some '.') (h : r.chars ++ x = s.chars ++ y) :
    r = s ∧ x = y := by
  cases r with
  | all =>
    cases s with
    | all => exact ⟨rfl, (List.cons.inj h).2⟩
    | name n => exact absurd (List.cons.inj h).1 (by decide)
    | column t n => exact absurd (List.cons.inj h).1 (by decide)
  | name n =>
    cases s with
    | all => exact absurd (List.cons.inj h).1 (by decide)
    | name m =>
      have hbody : n.toList ++ '`' :: x = m.toList ++ '`' :: y := by simpa [chars] using h
      obtain ⟨hnm, hxy⟩ := upTo_cancel hr hs hbody
      exact ⟨congrArg name (String.toList_inj.1 hnm), hxy⟩
    | column t m =>
      -- the name would be the table of the column, with the point of the column behind it
      have hbody : n.toList ++ '`' :: x
          = t.toList ++ '`' :: ('.' :: '`' :: (m.toList ++ '`' :: y)) := by
        simpa [chars] using h
      exact absurd (by rw [(upTo_cancel hr hs.1 hbody).2]; rfl) hx
  | column t n =>
    cases s with
    | all => exact absurd (List.cons.inj h).1 (by decide)
    | name m =>
      have hbody : t.toList ++ '`' :: ('.' :: '`' :: (n.toList ++ '`' :: x))
          = m.toList ++ '`' :: y := by
        simpa [chars] using h
      exact absurd (by rw [← (upTo_cancel hr.1 hs hbody).2]; rfl) hy
    | column u m =>
      have hbody : t.toList ++ '`' :: ('.' :: '`' :: (n.toList ++ '`' :: x))
          = u.toList ++ '`' :: ('.' :: '`' :: (m.toList ++ '`' :: y)) := by
        simpa [chars] using h
      obtain ⟨htu, hrest⟩ := upTo_cancel hr.1 hs.1 hbody
      obtain ⟨hnm, hxy⟩ := upTo_cancel hr.2 hs.2 (List.cons.inj (List.cons.inj hrest).2).2
      exact ⟨by rw [String.toList_inj.1 htu, String.toList_inj.1 hnm], hxy⟩

/-! ## Lists of references -/

/-- References behind one another, a comma and a space between two. -/
def listed (rs : List Reference) : List Char := [',', ' '].intercalate (rs.map Reference.chars)

theorem listed_cons_cons (r s : Reference) (rest : List Reference) :
    listed (r :: s :: rest) = r.chars ++ (',' :: ' ' :: listed (s :: rest)) := by
  simp [listed, List.intercalate_cons_cons]

theorem listed_singleton (r : Reference) : listed [r] = r.chars := by
  simp [listed]

/-- **A text starts with one list of references at most**, if neither a point nor a comma follows
that might belong to it. -/
theorem listed_cancel {rs ss : List Reference} (hrs : ∀ r ∈ rs, r.Plain) (hss : ∀ s ∈ ss, s.Plain)
    (hrne : rs ≠ []) (hsne : ss ≠ []) {x y : List Char}
    (hx : x.head? ≠ some '.' ∧ x.head? ≠ some ',') (hy : y.head? ≠ some '.' ∧ y.head? ≠ some ',')
    (h : listed rs ++ x = listed ss ++ y) : rs = ss ∧ x = y := by
  induction rs generalizing ss with
  | nil => exact absurd rfl hrne
  | cons r rest ih =>
    obtain ⟨s, rest', rfl⟩ := List.exists_cons_of_ne_nil hsne
    have hr := hrs r List.mem_cons_self
    have hs := hss s List.mem_cons_self
    -- the first references agree; then either both lists go on, or neither does, since a list that
    -- ended where the other goes on would have a comma behind it
    cases rest with
    | nil =>
      rw [listed_singleton] at h
      cases rest' with
      | nil =>
        rw [listed_singleton] at h
        obtain ⟨rfl, hxy⟩ := Reference.chars_cancel hr hs hx.1 hy.1 h
        exact ⟨rfl, hxy⟩
      | cons s' rest' =>
        rw [listed_cons_cons, List.append_assoc] at h
        obtain ⟨-, hcomma⟩ := Reference.chars_cancel hr hs hx.1 (by simp) h
        exact absurd (by rw [hcomma]; rfl) hx.2
    | cons r' rest =>
      rw [listed_cons_cons, List.append_assoc] at h
      cases rest' with
      | nil =>
        rw [listed_singleton] at h
        obtain ⟨-, hcomma⟩ := Reference.chars_cancel hr hs (by simp) hy.1 h
        exact absurd (by rw [← hcomma]; rfl) hy.2
      | cons s' rest' =>
        rw [listed_cons_cons, List.append_assoc] at h
        obtain ⟨rfl, htail⟩ := Reference.chars_cancel hr hs (by simp) (by simp) h
        have hlist : listed (r' :: rest) ++ x = listed (s' :: rest') ++ y :=
          (List.cons.inj (List.cons.inj htail).2).2
        obtain ⟨hrest, hxy⟩ := ih (fun r hr => hrs r (List.mem_cons_of_mem _ hr))
          (fun s hs => hss s (List.mem_cons_of_mem _ hs)) (List.cons_ne_nil _ _)
          (List.cons_ne_nil _ _) hlist
        exact ⟨by rw [hrest], hxy⟩

/-! ## Clauses of references -/

/-- The clauses whose fragments may be written from names alone. -/
def Clause.naming : List Clause := [.select, .source, .groupBy, .sortBy]

/-- Neither keyword starts with the other. -/
def Clause.Apart (c e : Clause) : Prop :=
  ¬ c.keyword.toList <+: e.keyword.toList ∧ ¬ e.keyword.toList <+: c.keyword.toList

instance : DecidableRel Clause.Apart :=
  fun _ _ => inferInstanceAs (Decidable (_ ∧ _))

/-- **No keyword of these clauses starts with another.** -/
theorem Clause.pairwise_naming : Clause.naming.Pairwise Clause.Apart := by decide

variable {refs refs' : Clause → List Reference}

/-- The references of a clause behind its keyword, with a space in front; without references there
is nothing to write. -/
def spelledClause (refs : Clause → List Reference) (c : Clause) : List Char :=
  if refs c = [] then [] else ' ' :: (c.keyword.toList ++ listed (refs c))

/-- The references of the clauses listed, up to the semicolon. -/
def spelled (refs : Clause → List Reference) : List Clause → List Char
  | [] => [';']
  | c :: rest => spelledClause refs c ++ spelled refs rest

/-- What is spelled out is the semicolon alone, or it starts with the keyword of a clause. -/
theorem spelled_cases (refs : Clause → List Reference) (cs : List Clause) :
    ((∀ c ∈ cs, refs c = []) ∧ spelled refs cs = [';'])
      ∨ ∃ c ∈ cs, ' ' :: c.keyword.toList <+: spelled refs cs := by
  induction cs with
  | nil => exact .inl ⟨by simp, rfl⟩
  | cons c rest ih =>
    rw [spelled, spelledClause]
    by_cases hc : refs c = []
    · rw [if_pos hc, List.nil_append]
      rcases ih with ⟨hnone, hend⟩ | ⟨e, he, hprefix⟩
      · exact .inl ⟨List.forall_mem_cons.2 ⟨hc, hnone⟩, hend⟩
      · exact .inr ⟨e, List.mem_cons_of_mem _ he, hprefix⟩
    · rw [if_neg hc]
      refine .inr ⟨c, List.mem_cons_self, ?_⟩
      exact ⟨listed (refs c) ++ spelled refs rest, by simp⟩

/-- Neither a point nor a comma stands before a clause or at the end. -/
theorem head?_spelled (refs : Clause → List Reference) (cs : List Clause) :
    (spelled refs cs).head? ≠ some '.' ∧ (spelled refs cs).head? ≠ some ',' := by
  rcases spelled_cases refs cs with ⟨-, hend⟩ | ⟨c, -, tail, htail⟩
  · rw [hend]
    decide
  · rw [← htail]
    simp

/-- The clauses that follow do not start with the keyword of a clause that is not among them. -/
theorem not_prefix_spelled {c : Clause} {cs : List Clause} (h : ∀ e ∈ cs, c.Apart e) :
    ¬ ' ' :: c.keyword.toList <+: spelled refs cs := by
  intro hprefix
  rcases spelled_cases refs cs with ⟨-, hend⟩ | ⟨e, he, hkeyword⟩
  · rw [hend] at hprefix
    exact absurd (List.cons_prefix_cons.1 hprefix).1 (by decide)
  · rcases List.prefix_or_prefix_of_prefix hprefix hkeyword with hce | hec
    · exact (h e he).1 (List.cons_prefix_cons.1 hce).2
    · exact (h e he).2 (List.cons_prefix_cons.1 hec).2

theorem spelled_cons_of_ne_nil {c : Clause} (hc : refs c ≠ []) (cs : List Clause) :
    spelled refs (c :: cs)
      = (' ' :: c.keyword.toList) ++ (listed (refs c) ++ spelled refs cs) := by
  rw [spelled, spelledClause, if_neg hc]
  simp

theorem spelled_cons_of_eq_nil {c : Clause} (hc : refs c = []) (cs : List Clause) :
    spelled refs (c :: cs) = spelled refs cs := by
  rw [spelled, spelledClause, if_pos hc, List.nil_append]

/-- **Clauses that are spelled alike have the same references**, clause by clause. -/
theorem spelled_cancel (hrefs : ∀ c, ∀ r ∈ refs c, r.Plain) (hrefs' : ∀ c, ∀ r ∈ refs' c, r.Plain)
    {cs : List Clause} (hcs : cs.Pairwise Clause.Apart) (h : spelled refs cs = spelled refs' cs) :
    ∀ c ∈ cs, refs c = refs' c := by
  induction cs with
  | nil => simp
  | cons c rest ih =>
    obtain ⟨hc, hrest⟩ := List.pairwise_cons.1 hcs
    rw [List.forall_mem_cons]
    -- a clause that only one side has would have to start like one of those behind it
    by_cases hr : refs c = []
    · by_cases hr' : refs' c = []
      · rw [spelled_cons_of_eq_nil hr, spelled_cons_of_eq_nil hr'] at h
        exact ⟨hr.trans hr'.symm, ih hrest h⟩
      · rw [spelled_cons_of_eq_nil hr, spelled_cons_of_ne_nil hr'] at h
        exact absurd ⟨_, h.symm⟩ (not_prefix_spelled hc)
    · by_cases hr' : refs' c = []
      · rw [spelled_cons_of_ne_nil hr, spelled_cons_of_eq_nil hr'] at h
        exact absurd ⟨_, h⟩ (not_prefix_spelled hc)
      · rw [spelled_cons_of_ne_nil hr, spelled_cons_of_ne_nil hr'] at h
        obtain ⟨hlist, htail⟩ := listed_cancel (hrefs c) (hrefs' c) hr hr' (head?_spelled refs rest)
          (head?_spelled refs' rest) (List.append_cancel_left h)
        exact ⟨hlist, ih hrest htail⟩

/-! ## Statements of references -/

/-- The statement whose clauses hold references. -/
def referenceStatement (refs : Clause → List Reference) : String :=
  String.intercalate " " (laidOut fun c => (refs c).map Reference.text) ++ ";"

/-- Only clauses of names are laid out where no other has references. -/
theorem laidOut_references (hrefs : ∀ c ∉ Clause.naming, refs c = []) :
    (laidOut fun c => (refs c).map Reference.text).map String.toList
      = (Clause.naming.filter fun c => refs c ≠ []).map fun c =>
          c.keyword.toList ++ listed (refs c) := by
  have hnone : ∀ c ∉ Clause.naming, (refs c).map Reference.text = [] := by
    intro c hc
    rw [hrefs c hc, List.map_nil]
  have hlayout : (layout.filter fun row => (refs row.1).map Reference.text ≠ [])
      = (Clause.naming.map fun c => (c, c.keyword, ", ")).filter fun row =>
          (refs row.1).map Reference.text ≠ [] := by
    simp only [layout, Clause.naming, List.map_cons, List.map_nil, List.filter_cons,
      hnone .innerJoin (by decide), hnone .leftJoin (by decide), hnone .rightJoin (by decide),
      hnone .filter (by decide), hnone .having (by decide), ne_eq, not_true_eq_false, decide_false]
    rfl
  rw [laidOut, hlayout, List.filter_map, List.map_map, List.map_map]
  have hfilter : (Clause.naming.filter
        ((fun row : Clause × String × String => decide ((refs row.1).map Reference.text ≠ []))
          ∘ fun c => (c, c.keyword, ", ")))
      = Clause.naming.filter fun c => refs c ≠ [] := by
    simp [Function.comp_def]
  rw [hfilter]
  refine List.map_congr_left fun c _ => ?_
  simp [listed, String.toList_intercalate, Reference.toList_text, Function.comp_def]

/-- Segments behind one another, with a space in front of each. -/
theorem spaced_intercalate {segments : List (List Char)} (hne : segments ≠ []) :
    ' ' :: [' '].intercalate segments = segments.flatMap fun s => ' ' :: s := by
  induction segments with
  | nil => exact absurd rfl hne
  | cons s rest ih =>
    cases rest with
    | nil => simp
    | cons t rest =>
      rw [List.intercalate_cons_cons, List.flatMap_cons, ← ih (List.cons_ne_nil _ _)]
      simp

/-- Clauses are spelled segment by segment. -/
theorem spelled_eq_flatMap (refs : Clause → List Reference) (cs : List Clause) :
    spelled refs cs
      = (((cs.filter fun c => refs c ≠ []).map fun c => c.keyword.toList ++ listed (refs c)).flatMap
          fun s => ' ' :: s) ++ [';'] := by
  induction cs with
  | nil => rfl
  | cons c rest ih =>
    by_cases hc : refs c = []
    · rw [spelled_cons_of_eq_nil hc, ih, List.filter_cons_of_neg (by simpa using hc)]
    · rw [spelled_cons_of_ne_nil hc, ih, List.filter_cons_of_pos (by simpa using hc)]
      simp

/-- The characters of a statement of references: its segments with a space between two, and the
semicolon. -/
theorem toList_referenceStatement (hrefs : ∀ c ∉ Clause.naming, refs c = []) :
    (referenceStatement refs).toList
      = [' '].intercalate ((Clause.naming.filter fun c => refs c ≠ []).map fun c =>
          c.keyword.toList ++ listed (refs c)) ++ [';'] := by
  rw [referenceStatement, String.toList_append, String.toList_intercalate, laidOut_references hrefs]
  rfl

/-- **A statement of references is what its clauses spell**, but for a space in front; without
references it is the semicolon alone. -/
theorem spelled_naming (hrefs : ∀ c ∉ Clause.naming, refs c = []) :
    ((∀ c ∈ Clause.naming, refs c = []) ∧ (referenceStatement refs).toList = [';'])
      ∨ spelled refs Clause.naming = ' ' :: (referenceStatement refs).toList := by
  rw [toList_referenceStatement hrefs, spelled_eq_flatMap]
  by_cases hnone : ∀ c ∈ Clause.naming, refs c = []
  · have hfilter : (Clause.naming.filter fun c => refs c ≠ []) = [] :=
      List.filter_eq_nil_iff.2 fun c hc => by simpa using hnone c hc
    exact .inl ⟨hnone, by rw [hfilter]; rfl⟩
  · have hfilter : (Clause.naming.filter fun c => refs c ≠ []) ≠ [] := by
      intro hnil
      refine hnone fun c hc => ?_
      simpa using List.filter_eq_nil_iff.1 hnil c hc
    rw [← spaced_intercalate (by simpa using hfilter)]
    exact .inr rfl

/-- Clauses that spell the semicolon behind a space have no references to spell. -/
theorem spelled_ne_semicolon (refs : Clause → List Reference) :
    spelled refs Clause.naming ≠ [' ', ';'] := by
  intro h
  have hkeywords : ∀ c ∈ Clause.naming, ¬ ' ' :: c.keyword.toList <+: [' ', ';'] := by decide
  rcases spelled_cases refs Clause.naming with ⟨-, hend⟩ | ⟨c, hc, hprefix⟩
  · rw [hend] at h
    cases h
  · rw [h] at hprefix
    exact hkeywords c hc hprefix

/-- **Statements of references that read alike refer to the same**, clause by clause. -/
theorem references_of_statement (hplain : ∀ c, ∀ r ∈ refs c, r.Plain)
    (hplain' : ∀ c, ∀ r ∈ refs' c, r.Plain) (hrefs : ∀ c ∉ Clause.naming, refs c = [])
    (hrefs' : ∀ c ∉ Clause.naming, refs' c = [])
    (h : referenceStatement refs = referenceStatement refs') : refs = refs' := by
  have hnaming : ∀ c ∈ Clause.naming, refs c = refs' c := by
    rcases spelled_naming hrefs with ⟨hnone, hend⟩ | hspelled
    · rcases spelled_naming hrefs' with ⟨hnone', -⟩ | hspelled'
      · exact fun c hc => (hnone c hc).trans (hnone' c hc).symm
      · rw [← h, hend] at hspelled'
        exact absurd hspelled' (spelled_ne_semicolon refs')
    · rcases spelled_naming hrefs' with ⟨-, hend'⟩ | hspelled'
      · rw [h, hend'] at hspelled
        exact absurd hspelled (spelled_ne_semicolon refs)
      · rw [h, ← hspelled'] at hspelled
        exact spelled_cancel hplain hplain' Clause.pairwise_naming hspelled
  funext c
  by_cases hc : c ∈ Clause.naming
  · exact hnaming c hc
  · rw [hrefs c hc, hrefs' c hc]

end SqlText
