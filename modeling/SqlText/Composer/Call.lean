import SqlText.Composer.Basic
import SqlText.Identifier

/-!
# Clause calls

The calls by which a caller fills the clauses of a statement. Each checks its arguments in the
order in which it takes them, writes the fragment and adds it to the draft. **A refused argument is
reported to the log before the call is refused**, and so is a join that has no table to join to.

The call that selects several columns of a table at once adds them one after another. Where one of
them is refused it drops those added before it, so that the columns are selected all or none, and
the refusal names the first refused column's as its cause.
-/

namespace SqlText

namespace Composer

/-- The sides of a join. -/
inductive Join where
  /-- Rows of both tables that match. -/
  | inner
  /-- Rows of the left table, matched or not. -/
  | left
  /-- Rows of the right table, matched or not. -/
  | right
  deriving DecidableEq, Repr

/-- The clause that holds the join. -/
def Join.clause : Join → Clause
  | .inner => .innerJoin
  | .left => .leftJoin
  | .right => .rightJoin

/-- The keyword of the join. -/
def Join.keyword : Join → String
  | .inner => "INNER JOIN"
  | .left => "LEFT JOIN"
  | .right => "RIGHT JOIN"

/-- A clause call. -/
inductive Call where
  /-- Selects every column, in place of all that was selected. -/
  | selectAll
  /-- Selects a column of a table. -/
  | selectColumn (table column label : Value)
  /-- Selects several columns of a table; null for the aliases is no alias for any of them. -/
  | selectColumns (table columns aliases : Value)
  /-- Selects an expression. -/
  | selectCode (code : Value)
  /-- Adds a table that rows are drawn from. -/
  | source (table label : Value)
  /-- Joins a table. -/
  | join (kind : Join) (table label condition : Value)
  /-- Sets the condition on rows, in place of all conditions before. -/
  | condition (condition : Value)
  /-- Adds a condition on rows that must hold as well. -/
  | andCondition (condition : Value)
  /-- Adds a condition on rows that may hold instead. -/
  | orCondition (condition : Value)
  /-- Groups by a column. -/
  | groupBy (column : Value)
  /-- Groups by a column of a table. -/
  | groupByTableColumn (table column : Value)
  /-- Adds a condition on groups. -/
  | having (condition : Value) (connective : Value := .text "AND")
  /-- Sorts by a column. -/
  | sortBy (column : Value)
  /-- Sorts by a column of a table. -/
  | sortByTableColumn (table column : Value)

/-- The clause a call is aimed at. -/
def Call.clause : Call → Clause
  | .selectAll | .selectColumn .. | .selectColumns .. | .selectCode .. => .select
  | .source .. => .source
  | .join kind .. => kind.clause
  | .condition .. | .andCondition .. | .orCondition .. => .filter
  | .groupBy .. | .groupByTableColumn .. => .groupBy
  | .having .. => .having
  | .sortBy .. | .sortByTableColumn .. => .sortBy

/-! ## Fragments -/

/-- A selected column. -/
def columnFragment (table column label : Value) : String :=
  withAlias (tableColumn table column) " " label

/-- A table that rows are drawn from. -/
def sourceFragment (table label : Value) : String :=
  withAlias (quoteIdentifier table) " AS " label

/-- A join. -/
def joinFragment (kind : Join) (table label condition : Value) : String :=
  withAlias (kind.keyword ++ " " ++ quoteIdentifier table) " AS " label ++ " ON "
    ++ condition.toText

/-! ## Steps of a call -/

/-- A step of a clause call. -/
abbrev Step (α : Type) : Type := Attempt Log.Entry Composer Refusal α

/-- Reports a refused argument and refuses the call. -/
def reject {α : Type} (r : Refusal) : Step α := do
  Attempt.write (Log.Entry.debug channel ("Rejected clause argument: " ++ r.message))
  Attempt.refuse r

/-- Goes on only if the argument is not blank. -/
def require (v : Value) (role : Role) : Step Unit :=
  if v.isBlank then reject (.blank role) else pure ()

/-- Edits the draft. -/
def edit (e : Draft.Edit) : Step Unit := do
  let c ← Attempt.state
  match c.draft.edit e with
  | .ok d => Attempt.update fun c => { c with draft := d }
  | .error r => Attempt.refuse (.edit r)

/-- The members of a collection. -/
def members (v : Value) : Step (List Value) :=
  match v.elements? with
  | some vs => pure vs
  | none => Attempt.refuse (.notCollection v)

/-! ## The calls -/

/-- Selects a column of a table. -/
def selectColumn (table column label : Value) : Step Unit := do
  require table .selectTable
  require column .selectColumn
  edit (.add .select (.text (columnFragment table column label)))

/-- Selects columns of a table, each with its alias, one after another. -/
def selectEach (table : Value) : List (Value × Value) → Step Unit
  | [] => pure ()
  | (column, label) :: rest => do
    selectColumn table column label
    selectEach table rest

/-- The aliases of several columns. -/
def aliasesFor (names : List Value) (aliases : Value) : Step (List Value) :=
  match aliases with
  | .null => pure (names.map fun _ => .null)
  | v => members v

/-- Selects several columns of a table, all or none. -/
def selectColumns (table columns aliases : Value) : Step Unit := do
  let names ← members columns
  let labels ← aliasesFor names aliases
  if names.length = labels.length then
    let before ← Attempt.state
    (selectEach table (names.zip labels)).orElse fun r => do
      edit (.truncate .select (before.draft.fragments .select).length)
      Attempt.refuse (.columns r)
  else reject (.lengths names.length labels.length)

/-- Joins a table. -/
def join (kind : Join) (table label condition : Value) : Step Unit := do
  require table .joinTable
  require condition .joinCondition
  let c ← Attempt.state
  if c.draft.isEmptyAt .source then
    Attempt.write (Log.Entry.debug channel ("Rejected " ++ kind.keyword ++ " of '" ++ table.toText
      ++ "': " ++ Refusal.joinBeforeSource.message))
    Attempt.refuse .joinBeforeSource
  else edit (.add kind.clause (.text (joinFragment kind table label condition)))

/-- **Answers a clause call.** -/
def perform : Call → Step Unit
  | .selectAll => edit (.replace .select (.list [.text "*"]))
  | .selectColumn table column label => selectColumn table column label
  | .selectColumns table columns aliases => selectColumns table columns aliases
  | .selectCode code => do
    require code .selectCode
    edit (.add .select code)
  | .source table label => do
    require table .sourceTable
    edit (.add .source (.text (sourceFragment table label)))
  | .join kind table label condition => join kind table label condition
  | .condition condition => do
    require condition .condition
    edit (.replace .filter (.list [condition]))
  | .andCondition condition => do
    require condition .andCondition
    edit (.addJoined .filter condition (.text "AND"))
  | .orCondition condition => do
    require condition .orCondition
    edit (.addJoined .filter condition (.text "OR"))
  | .groupBy column => do
    require column .groupColumn
    edit (.add .groupBy (.text (quoteIdentifier column)))
  | .groupByTableColumn table column => do
    require table .groupTable
    require column .groupColumn
    edit (.add .groupBy (.text (tableColumn table column)))
  | .having condition connective => do
    require condition .havingCondition
    edit (.addJoined .having condition connective)
  | .sortBy column => do
    require column .sortColumn
    edit (.add .sortBy (.text (quoteIdentifier column)))
  | .sortByTableColumn table column => do
    require table .sortTable
    require column .sortColumn
    edit (.add .sortBy (.text (tableColumn table column)))

end Composer

end SqlText
