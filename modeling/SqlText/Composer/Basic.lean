import SqlText.Attempt
import SqlText.Draft
import SqlText.Log.Entry

/-!
# Composers

A **composer** is what a caller talks to: it holds the draft of one statement and the last
statement rendered from it. Callers change the draft through the clause calls of
`SqlText.Composer.Call`; this module holds the state, the reasons for which a call is refused and
the words for them.

Every argument that must not be blank has a role, and the role decides what is said when it is.
-/

namespace SqlText

/-- A draft and the last statement rendered from it. -/
structure Composer where
  /-- The fragments collected so far. -/
  draft : Draft := {}
  /-- The last statement rendered, empty before the first. -/
  latest : String := ""
  deriving Repr, Inhabited

namespace Composer

/-- The composer nothing was asked of yet. -/
def fresh : Composer := {}

/-- The channel composers speak on. -/
def channel : String := "sqlbuilder.builder"

/-- A short description: that of the draft. -/
def describe (c : Composer) : String := "SqlBuilder(" ++ c.draft.describe ++ ")"

/-! ## Refusals -/

/-- The part that a required argument plays in a call. -/
inductive Role where
  /-- The table of a selected column. -/
  | selectTable
  /-- A selected column. -/
  | selectColumn
  /-- The code of a selected expression. -/
  | selectCode
  /-- A table rows are drawn from. -/
  | sourceTable
  /-- A joined table. -/
  | joinTable
  /-- What a join depends on. -/
  | joinCondition
  /-- The first condition on rows. -/
  | condition
  /-- A further condition that must hold as well. -/
  | andCondition
  /-- A further condition that may hold instead. -/
  | orCondition
  /-- The table of a column rows are grouped by. -/
  | groupTable
  /-- A column rows are grouped by. -/
  | groupColumn
  /-- A condition on groups. -/
  | havingCondition
  /-- The table of a column rows are sorted by. -/
  | sortTable
  /-- A column rows are sorted by. -/
  | sortColumn
  deriving DecidableEq, Repr

/-- What is said when the argument is blank. -/
def Role.complaint : Role → String
  | .selectTable => "Cannot add unnamed table to the SELECT clause."
  | .selectColumn => "Cannot add unnamed column to the SELECT clause."
  | .selectCode => "No code given for the SELECT clause."
  | .sourceTable => "Cannot add unnamed table to FROM clause."
  | .joinTable => "Cannot join unnamed table."
  | .joinCondition => "Cannot perform join based upon no condition."
  | .condition => "Cannot check against an empty condition."
  | .andCondition => "Cannot add empty AND clause."
  | .orCondition => "Cannot add empty OR clause."
  | .groupTable => "Cannot group by a column of an unnamed table."
  | .groupColumn => "Cannot group by an unnamed column."
  | .havingCondition => "Cannot add an empty condition to the HAVING clause."
  | .sortTable => "Cannot sort by a column of an unnamed table."
  | .sortColumn => "Cannot sort by an unnamed column."

/-- Why a clause call is refused. -/
inductive Refusal where
  /-- A required argument is blank. -/
  | blank (role : Role)
  /-- There are not as many aliases as column names. -/
  | lengths (names aliases : Nat)
  /-- One of several columns is refused, for the reason given. -/
  | columns (cause : Refusal)
  /-- A join is asked for while there is no table to join to. -/
  | joinBeforeSource
  /-- The column names or the aliases are no collection. -/
  | notCollection (given : Value)
  /-- The draft refuses the edit. -/
  | edit (cause : Draft.Refusal)

/-- What is said of a refused clause call. -/
def Refusal.message : Refusal → String
  | .blank role => role.complaint
  | .lengths names aliases =>
    "Column names and aliases cannot be of different lengths (names = " ++ toString names
      ++ ", aliases = " ++ toString aliases ++ ")"
  | .columns _ => "Could not add table column to SELECT clause."
  | .joinBeforeSource => "Cannot perform join when no other table has been specified, so far."
  | .notCollection v => "'" ++ v.typeName ++ "' object is not iterable"
  | .edit cause => cause.message

/-- What sort of refusal a refused clause call ends with, by which a caller may tell it apart. -/
inductive Refusal.Sort where
  /-- An argument is not fit for the call. -/
  | invalid
  /-- The call comes too early. -/
  | order
  /-- An argument is not of a kind the call can use at all. -/
  | kind
  deriving DecidableEq, Repr

/-- The sort of a refused clause call. -/
def Refusal.sort : Refusal → Refusal.Sort
  | .blank _ | .lengths .. | .columns _ => .invalid
  | .joinBeforeSource => .order
  | .notCollection _ | .edit (.notCollection _) => .kind
  | .edit (.blankFragment _) | .edit (.blankConnective _) => .invalid

end Composer

end SqlText
