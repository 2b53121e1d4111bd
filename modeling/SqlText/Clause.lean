import SqlText.Value

/-!
# The clauses of a statement

A statement has nine clauses, and never more or fewer. Each has a name by which callers ask for it
and, in the text of the statement, a keyword in front of its fragments and a separator between
them. A join carries its keyword inside each fragment, so the three join clauses have no keyword
of their own.
-/

namespace SqlText

/-- The clauses of a statement. -/
inductive Clause where
  /-- The columns and expressions selected. -/
  | select
  /-- The tables rows are drawn from: `FROM`. -/
  | source
  /-- The inner joins. -/
  | innerJoin
  /-- The left joins. -/
  | leftJoin
  /-- The right joins. -/
  | rightJoin
  /-- The conditions on rows: `WHERE`. -/
  | filter
  /-- The columns rows are grouped by. -/
  | groupBy
  /-- The conditions on groups. -/
  | having
  /-- The columns rows are sorted by. -/
  | sortBy
  deriving DecidableEq, Repr, Inhabited

namespace Clause

/-- Every clause, in the order in which they are listed. -/
def all : List Clause :=
  [.select, .source, .innerJoin, .leftJoin, .rightJoin, .filter, .groupBy, .having, .sortBy]

@[simp] theorem mem_all (c : Clause) : c ∈ all := by
  cases c <;> decide

/-- The name of a clause. -/
def name : Clause → String
  | .select => "select"
  | .source => "from"
  | .innerJoin => "inner_join"
  | .leftJoin => "left_join"
  | .rightJoin => "right_join"
  | .filter => "where"
  | .groupBy => "group_by"
  | .having => "having"
  | .sortBy => "sort_by"

/-- The refusal of a value that names no clause. -/
structure Unknown where
  /-- The value given for a clause name. -/
  given : Value

/-- What is said of a value that names no clause. -/
def Unknown.message (u : Unknown) : String := u.given.literal ++ " is not a valid ClauseKind"

/-- The clause a value names. -/
def ofValue (v : Value) : Except Unknown Clause :=
  match all.find? fun c => v.asText? == some c.name with
  | some c => .ok c
  | none => .error ⟨v⟩

/-- Whether the clause holds joins. -/
def isJoin : Clause → Bool
  | .innerJoin | .leftJoin | .rightJoin => true
  | _ => false

/-- What stands before the fragments of the clause. -/
def keyword : Clause → String
  | .select => "SELECT "
  | .source => "FROM "
  | .innerJoin | .leftJoin | .rightJoin => ""
  | .filter => "WHERE "
  | .groupBy => "GROUP BY "
  | .having => "HAVING "
  | .sortBy => "SORT BY "

/-- What stands between two fragments of the clause: a comma in a list, a space in a run of joins
or conditions. -/
def separator : Clause → String
  | .select | .source | .groupBy | .sortBy => ", "
  | .innerJoin | .leftJoin | .rightJoin | .filter | .having => " "

end Clause

end SqlText
