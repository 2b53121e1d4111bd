import SqlText.Proofs.Binding
import SqlText.Proofs.Composer.History

/-!
# How fragments are worded

Every fragment is put together from arguments of the call it comes from and from what the library
writes around them. Its **wording** keeps the two apart: it is the list of its pieces, in order, so
that one can say what an argument contributes to a fragment and what the glue does.

`reword` goes through the calls in step with `Call.revise` and keeps the wordings instead of the
texts. It loses nothing (`fragments_wordings`): the fragments of a clause are, one by one, the texts
of its wordings, as long as the conditions and expressions given are texts. And in every wording
that comes up there is neutral glue between two arguments (`spaced_wordingsOf`), so that the bind
parameters of a fragment are those of its arguments, one behind the other (`named_text`).
-/

namespace SqlText.Composer

/-! ## Wordings -/

/-- A piece of a fragment. -/
inductive Piece where
  /-- What is written around arguments. -/
  | glue (s : String)
  /-- An argument. -/
  | given (v : Value)

/-- The text of a piece. -/
def Piece.text : Piece → String
  | .glue s => s
  | .given v => v.toText

/-- **The wording of a fragment**: its pieces, in order. -/
abbrev Wording : Type := List Piece

namespace Wording

/-- The text that is worded. -/
def text : Wording → String
  | [] => ""
  | p :: rest => p.text ++ text rest

/-- The arguments in a wording, in order. -/
def arguments : Wording → List Value
  | [] => []
  | .glue _ :: rest => arguments rest
  | .given v :: rest => v :: arguments rest

/-- **A wording whose arguments do not touch**: between two of them there is neutral glue, and all
glue lets a colon behind it count. -/
def Spaced : Wording → Prop
  | [] => True
  | .glue g :: rest => Binding.Leading g ∧ Spaced rest
  | [.given _] => True
  | .given _ :: .glue g :: rest => Binding.Neutral g ∧ Spaced rest
  | .given _ :: .given _ :: _ => False

theorem text_append (v w : Wording) : text (v ++ w) = text v ++ text w := by
  induction v with
  | nil => rw [List.nil_append, text, String.empty_append]
  | cons p rest ih => rw [List.cons_append, text, text, ih, String.append_assoc]

/-- **The parameters of a fragment are those of its arguments**, in the order in which they appear
in it. -/
theorem named_text {w : Wording} (h : Spaced w) :
    Binding.named (text w) = (arguments w).flatMap fun v => Binding.named v.toText := by
  fun_induction Spaced w with
  | case1 => rfl
  | case2 g rest ih =>
    rw [text, Piece.text, Binding.named_leading h.1, arguments]
    exact ih h.2
  | case3 v => simp [text, Piece.text, arguments]
  | case4 v g rest ih =>
    rw [text, text, Piece.text, Piece.text, Binding.named_neutral h.1, ih h.2]
    rfl
  | case5 => exact h.elim

end Wording

/-! ## What a call words -/

/-- An alias behind a name, unless it is blank. -/
def aliasWording (glue : String) (label : Value) : Wording :=
  if label.isBlank then [] else [.glue glue, .given label]

/-- The quoted name of a table or a column. -/
def nameWording (name : Value) : Wording := [.glue "`", .given name, .glue "`"]

/-- The quoted name of a column of a table. -/
def columnWording (table column : Value) : Wording :=
  [.glue "`", .given table, .glue "`.`", .given column, .glue "`"]

/-- Several columns of a table, each with its alias. -/
def columnsWordings (table columns aliases : Value) : List Wording :=
  match columns.elements? with
  | none => []
  | some names =>
    (names.zip ((labelsFor names aliases).getD [])).map fun p =>
      columnWording table p.1 ++ aliasWording " " p.2

/-- The wordings of what a call writes. A condition is worded as it is given. -/
def Call.wordings : Call → List Wording
  | .selectAll => [[.glue "*"]]
  | .selectColumn table column label => [columnWording table column ++ aliasWording " " label]
  | .selectColumns table columns aliases => columnsWordings table columns aliases
  | .selectCode code => [[.given code]]
  | .source table label => [nameWording table ++ aliasWording " AS " label]
  | .join kind table label test =>
    [.glue (kind.keyword ++ " ") :: (nameWording table ++ aliasWording " AS " label
      ++ [.glue " ON ", .given test])]
  | .condition test | .andCondition test | .orCondition test | .having test _ => [[.given test]]
  | .groupBy column | .sortBy column => [nameWording column]
  | .groupByTableColumn table column | .sortByTableColumn table column =>
    [columnWording table column]

/-- A condition behind others, with its connective in front, or on its own where there are none. -/
def extendWordings (ws : List Wording) (connective : Wording) (test : Value) : List Wording :=
  if ws = [] then [[.given test]] else ws ++ [connective ++ [.given test]]

/-- **What a call makes of the wordings of its clause** if it goes through. The connectives `AND`
and `OR` are the library's; that of a condition on groups is an argument. -/
def Call.reword (ws : List Wording) (k : Call) : List Wording :=
  match k with
  | .selectAll | .condition _ => k.wordings
  | .andCondition test => extendWordings ws [.glue "AND "] test
  | .orCondition test => extendWordings ws [.glue "OR "] test
  | .having test connective => extendWordings ws [.given connective, .glue " "] test
  | _ => ws ++ k.wordings

/-- **A call that keeps no argument but texts.** An expression and a condition are kept as they are
given, and have to be texts; every other argument is written into a text, whatever it is. -/
def Call.Textual : Call → Prop
  | .selectCode v | .condition v | .andCondition v | .orCondition v | .having v _ =>
    ∃ s, v = .text s
  | _ => True

/-- The fragment that is worded. -/
def Wording.fragment (w : Wording) : Value := .text (text w)

/-! ### Their texts -/

theorem text_aliasWording (glue : String) (label : Value) :
    Wording.text (aliasWording glue label) = aliasText glue label := by
  unfold aliasWording aliasText
  split
  · rfl
  · simp [Wording.text, Piece.text]

theorem text_nameWording (name : Value) :
    Wording.text (nameWording name) = "`" ++ name.toText ++ "`" := by
  simp [nameWording, Wording.text, Piece.text, String.append_assoc]

theorem text_columnWording (table column : Value) :
    Wording.text (columnWording table column)
      = "`" ++ table.toText ++ "`.`" ++ column.toText ++ "`" := by
  simp [columnWording, Wording.text, Piece.text, String.append_assoc]

theorem fragment_given (s : String) : Wording.fragment [.given (.text s)] = .text s := by
  simp [Wording.fragment, Wording.text, Piece.text, Value.toText]

theorem columnText_eq_fragment (table column label : Value) :
    columnText table column label
      = Wording.fragment (columnWording table column ++ aliasWording " " label) := by
  rw [columnText, Wording.fragment, Wording.text_append, text_columnWording, text_aliasWording]

/-- Several columns are written as they are worded. -/
theorem columnsTexts_eq_fragments (table columns aliases : Value) :
    columnsTexts table columns aliases
      = (columnsWordings table columns aliases).map Wording.fragment := by
  unfold columnsTexts columnsWordings
  cases columns.elements? with
  | none => rfl
  | some names => simp [columnText_eq_fragment, Function.comp_def]

/-- **What a call writes is what it words.** -/
theorem written_eq_wordings {k : Call} (hk : k.Textual) :
    k.written = k.wordings.map Wording.fragment := by
  cases k with
  | selectAll => rfl
  | selectColumn table column label =>
    exact congrArg (fun f => [f]) (columnText_eq_fragment table column label)
  | selectColumns table columns aliases => exact columnsTexts_eq_fragments table columns aliases
  | source table label =>
    simp [Call.written, Call.wordings, Wording.fragment, Wording.text_append, text_nameWording,
      text_aliasWording]
  | join kind table label test =>
    -- the mark behind the keyword belongs to the name
    have hmark : " `" ++ table.toText = " " ++ ("`" ++ table.toText) := by
      rw [← String.append_assoc]
      rfl
    have htext : Wording.text (.glue (kind.keyword ++ " ")
        :: (nameWording table ++ aliasWording " AS " label ++ [.glue " ON ", .given test]))
        = kind.keyword ++ (" " ++ ("`" ++ table.toText)) ++ "`" ++ aliasText " AS " label
          ++ " ON " ++ test.toText := by
      simp [Wording.text, Wording.text_append, text_nameWording, text_aliasWording, Piece.text,
        String.append_assoc]
    simp only [Call.written, Call.wordings, Wording.fragment, htext, ← hmark, List.map_cons,
      List.map_nil, String.append_assoc]
  | selectCode v | condition v | andCondition v | orCondition v =>
    obtain ⟨s, rfl⟩ := hk
    exact congrArg (fun f => [f]) (fragment_given s).symm
  | having v connective =>
    obtain ⟨s, rfl⟩ := hk
    exact congrArg (fun f => [f]) (fragment_given s).symm
  | groupBy column | sortBy column =>
    simp [Call.written, Call.wordings, Wording.fragment, text_nameWording]
  | groupByTableColumn table column | sortByTableColumn table column =>
    simp [Call.written, Call.wordings, Wording.fragment, text_columnWording]

/-- A condition is joined to others as it is worded. -/
theorem extend_fragments {connective : Value} {front : Wording}
    (hfront : Wording.text front = connective.toText ++ " ") (ws : List Wording) (s : String) :
    extend (ws.map Wording.fragment) connective (.text s)
      = (extendWordings ws front (.text s)).map Wording.fragment := by
  unfold extend extendWordings
  by_cases hws : ws = []
  · subst hws
    exact congrArg (fun f => [f]) (fragment_given s).symm
  · rw [if_neg (by simpa using hws), if_neg hws, List.map_append]
    simp [Wording.fragment, Wording.text_append, hfront, Wording.text, Piece.text, Draft.joined,
      String.append_assoc]

/-- **A call revises fragments as it rewords them.** -/
theorem revise_fragments {k : Call} (hk : k.Textual) (ws : List Wording) :
    k.revise (ws.map Wording.fragment) = (k.reword ws).map Wording.fragment := by
  cases k with
  | selectAll => rfl
  | condition test => exact written_eq_wordings hk
  | andCondition test | orCondition test =>
    obtain ⟨s, rfl⟩ := hk
    exact extend_fragments (by decide) ws s
  | having test connective =>
    obtain ⟨s, rfl⟩ := hk
    exact extend_fragments (by simp [Wording.text, Piece.text]) ws s
  | _ =>
    rw [revise_eq_append rfl rfl, written_eq_wordings hk]
    exact (List.map_append ..).symm

/-! ### Their glue -/

section Glue

variable {v : Wording}

theorem spaced_nameWording (hv : Wording.Spaced v) (name : Value) :
    Wording.Spaced (nameWording name ++ v) := by
  show Binding.Leading "`" ∧ Binding.Neutral "`" ∧ Wording.Spaced v
  exact ⟨by decide, by decide, hv⟩

theorem spaced_columnWording (hv : Wording.Spaced v) (table column : Value) :
    Wording.Spaced (columnWording table column ++ v) := by
  show Binding.Leading "`" ∧ Binding.Neutral "`.`" ∧ Binding.Neutral "`" ∧ Wording.Spaced v
  exact ⟨by decide, by decide, by decide, hv⟩

/-- An alias may stand before what an argument may stand before. -/
theorem spaced_aliasWording {glue : String} (hglue : Binding.Leading glue) (label : Value)
    (hlabel : Wording.Spaced (.given label :: v)) (hv : Wording.Spaced v) :
    Wording.Spaced (aliasWording glue label ++ v) := by
  unfold aliasWording
  split
  · exact hv
  · exact ⟨hglue, hlabel⟩

theorem spaced_selected (table column label : Value) :
    Wording.Spaced (columnWording table column ++ aliasWording " " label) := by
  refine spaced_columnWording ?_ table column
  rw [← List.append_nil (aliasWording " " label)]
  exact spaced_aliasWording (by decide) label trivial trivial

/-- **Arguments do not touch in what a call words.** -/
theorem spaced_wordings (k : Call) : ∀ w ∈ k.wordings, Wording.Spaced w := by
  cases k with
  | selectAll => exact List.forall_mem_singleton.2 ⟨by decide, trivial⟩
  | selectColumn table column label =>
    exact List.forall_mem_singleton.2 (spaced_selected table column label)
  | selectColumns table columns aliases =>
    intro w hw
    unfold Call.wordings columnsWordings at hw
    cases hnames : columns.elements? with
    | none => simp [hnames] at hw
    | some names =>
      simp only [hnames] at hw
      obtain ⟨p, -, rfl⟩ := List.mem_map.1 hw
      exact spaced_selected table p.1 p.2
  | source table label =>
    refine List.forall_mem_singleton.2 (spaced_nameWording ?_ table)
    rw [← List.append_nil (aliasWording " AS " label)]
    exact spaced_aliasWording (by decide) label trivial trivial
  | join kind table label test =>
    have hkeyword : Binding.Leading (kind.keyword ++ " ") := by cases kind <;> decide
    have htest : Wording.Spaced [.glue " ON ", .given test] := ⟨by decide, trivial⟩
    have hlabel : Wording.Spaced [.given label, .glue " ON ", .given test] := ⟨by decide, trivial⟩
    refine List.forall_mem_singleton.2 ⟨hkeyword, ?_⟩
    rw [List.append_assoc]
    exact spaced_nameWording (spaced_aliasWording (by decide) label hlabel htest) table
  | selectCode v | condition v | andCondition v | orCondition v =>
    exact List.forall_mem_singleton.2 trivial
  | having v connective => exact List.forall_mem_singleton.2 trivial
  | groupBy column | sortBy column =>
    exact List.forall_mem_singleton.2 (spaced_nameWording (v := []) trivial column)
  | groupByTableColumn table column | sortByTableColumn table column =>
    exact List.forall_mem_singleton.2 (spaced_columnWording (v := []) trivial table column)

/-- Nor do they where a condition is joined to others. -/
theorem spaced_extendWordings {ws : List Wording} (hws : ∀ w ∈ ws, Wording.Spaced w)
    {connective : Wording} {test : Value}
    (hfront : Wording.Spaced (connective ++ [.given test])) :
    ∀ w ∈ extendWordings ws connective test, Wording.Spaced w := by
  intro w hw
  unfold extendWordings at hw
  split at hw
  · rw [List.mem_singleton.1 hw]
    trivial
  · rcases List.mem_append.1 hw with hw | hw
    · exact hws w hw
    · rwa [List.mem_singleton.1 hw]

/-- **A call that rewords its clause keeps arguments from touching.** -/
theorem spaced_reword {ws : List Wording} (hws : ∀ w ∈ ws, Wording.Spaced w) (k : Call) :
    ∀ w ∈ k.reword ws, Wording.Spaced w := by
  have hown := spaced_wordings k
  have hadded : ∀ w ∈ ws ++ k.wordings, Wording.Spaced w := by
    intro w hw
    exact (List.mem_append.1 hw).elim (hws w) (hown w)
  cases k with
  | selectAll | condition test => exact hown
  | andCondition test | orCondition test =>
    exact spaced_extendWordings hws ⟨by decide, trivial⟩
  | having test connective => exact spaced_extendWordings hws ⟨by decide, trivial⟩
  | _ => exact hadded

end Glue

/-! ## The wordings of a run -/

/-- The calls that go through among some calls, one after another, from a draft on. -/
def accepted (d : Draft) : List Call → List Call
  | [] => []
  | k :: rest =>
    if k.objections d = [] then k :: accepted (draftAfter d k) rest else accepted d rest

/-- Some calls reword a clause as far as they are aimed at it. -/
def rewordAll (clause : Clause) (ws : List Wording) (ks : List Call) : List Wording :=
  (ks.filter fun k => k.clause = clause).foldl Call.reword ws

/-- **The wordings of a clause** after some calls to an empty draft. -/
def wordingsOf (ks : List Call) (clause : Clause) : List Wording :=
  rewordAll clause [] (accepted .empty ks)

/-- Calls leave the fragments that they word, behind those that were worded before. -/
theorem fragments_rewordAll {ks : List Call} (hks : ∀ k ∈ ks, k.Textual) (d : Draft)
    (ws : Clause → List Wording)
    (hd : ∀ clause, d.fragments clause = (ws clause).map Wording.fragment) (clause : Clause) :
    (ks.foldl draftAfter d).fragments clause
      = (rewordAll clause (ws clause) (accepted d ks)).map Wording.fragment := by
  induction ks generalizing d ws with
  | nil => exact hd clause
  | cons k rest ih =>
    obtain ⟨hk, hrest⟩ := List.forall_mem_cons.1 hks
    rw [List.foldl_cons, accepted]
    by_cases hobj : k.objections d = []
    · -- the call goes through, and the wordings of its clause follow suit
      rw [if_pos hobj]
      have hnext : ∀ e, (draftAfter d k).fragments e
          = (if k.clause = e then k.reword (ws e) else ws e).map Wording.fragment := by
        intro e
        rw [fragments_draftAfter, hd e]
        by_cases he : k.clause = e
        · rw [if_pos ⟨he, hobj⟩, if_pos he, revise_fragments hk]
        · rw [if_neg (fun h => he h.1), if_neg he]
      rw [ih hrest (draftAfter d k) _ hnext]
      unfold rewordAll
      by_cases hc : k.clause = clause
      · rw [if_pos hc, List.filter_cons_of_pos (by simpa using hc), List.foldl_cons]
      · rw [if_neg hc, List.filter_cons_of_neg (by simpa using hc)]
    · have hsame : draftAfter d k = d := if_neg hobj
      rw [if_neg hobj, hsame]
      exact ih hrest d ws hd

/-- **The fragments of a clause are the texts of its wordings**, one by one. -/
theorem fragments_wordings {ks : List Call} (hks : ∀ k ∈ ks, k.Textual) (clause : Clause) :
    (ks.foldl draftAfter .empty).fragments clause
      = (wordingsOf ks clause).map Wording.fragment :=
  fragments_rewordAll hks .empty (fun _ => []) (fun c => Draft.fragments_empty c) clause

/-- **Arguments do not touch in the wordings of a run.** -/
theorem spaced_wordingsOf (ks : List Call) (clause : Clause) :
    ∀ w ∈ wordingsOf ks clause, Wording.Spaced w := by
  unfold wordingsOf rewordAll
  generalize (accepted .empty ks).filter _ = ls
  suffices h : ∀ ws : List Wording, (∀ w ∈ ws, Wording.Spaced w) →
      ∀ w ∈ ls.foldl Call.reword ws, Wording.Spaced w from h [] (by simp)
  induction ls with
  | nil => exact fun ws hws => hws
  | cons k rest ih => exact fun ws hws => ih (k.reword ws) (spaced_reword hws k)

end SqlText.Composer
