import SqlText.Draft

/-!
# Statements

The **statement** of a draft is its text: one segment for each clause that has fragments, a space
between two segments, and a semicolon at the end. The segments come in a fixed order, in which
`SORT BY` stands before `HAVING`; a segment is the keyword of its clause followed by its fragments
with the clause's separator between them. Joins are shown only while there is a table to join to.

A draft may hold fragments that are no texts, and these have no place in a statement: joining
them is refused, and what is reported is the first of them in the first segment that has one.
-/

namespace SqlText

/-! ## Joining texts -/

/-- The refusal of a value that is no text among texts to be joined. -/
structure NotText where
  /-- The position of the value. -/
  index : Nat
  /-- The value found there. -/
  found : Value

/-- What is said of a value that is no text. -/
def NotText.message (e : NotText) : String :=
  "sequence item " ++ toString e.index ++ ": expected str instance, " ++ e.found.typeName
    ++ " found"

/-- The texts that the values are; the first of them has the given position. -/
def textsFrom (index : Nat) : List Value → Except NotText (List String)
  | [] => .ok []
  | v :: rest =>
    match v.asText? with
    | none => .error ⟨index, v⟩
    | some s => (textsFrom (index + 1) rest).map (s :: ·)

/-- The values, all of them texts, with a separator between two. -/
def joinTexts (separator : String) (values : List Value) : Except NotText String :=
  (textsFrom 0 values).map (String.intercalate separator)

theorem textsFrom_map_text (index : Nat) (ss : List String) :
    textsFrom index (ss.map Value.text) = .ok ss := by
  induction ss generalizing index with
  | nil => rfl
  | cons s rest ih => simp [textsFrom, Value.asText?, ih, Except.map]

@[simp] theorem joinTexts_map_text (separator : String) (ss : List String) :
    joinTexts separator (ss.map Value.text) = .ok (String.intercalate separator ss) := by
  rw [joinTexts, textsFrom_map_text]
  rfl

/-! ## Segments -/

/-- The clauses in the order of their segments. -/
def Clause.statementOrder : List Clause :=
  [.select, .source, .innerJoin, .leftJoin, .rightJoin, .filter, .groupBy, .sortBy, .having]

namespace Draft

/-- Whether a clause has a segment: it has fragments and, if it holds joins, there is a table to
join to. -/
def shows (d : Draft) (c : Clause) : Bool :=
  !d.isEmptyAt c && !(c.isJoin && d.isEmptyAt .source)

/-- The segment of a clause. -/
def segment (d : Draft) (c : Clause) : Except NotText String :=
  (joinTexts c.separator (d.fragments c)).map (c.keyword ++ ·)

/-- The segments of the clauses listed, as far as they have one. -/
def segmentsOf (d : Draft) : List Clause → Except NotText (List String)
  | [] => .ok []
  | c :: rest =>
    if d.shows c then
      match d.segment c with
      | .error e => .error e
      | .ok s => (segmentsOf d rest).map (s :: ·)
    else segmentsOf d rest

/-- The segments of the statement. -/
def segments (d : Draft) : Except NotText (List String) := d.segmentsOf Clause.statementOrder

/-- What ends a statement. -/
def terminator : String := ";"

/-- **The statement of a draft.** -/
def statement (d : Draft) : Except NotText String :=
  d.segments.map fun ss => String.intercalate " " ss ++ terminator

end Draft

end SqlText
