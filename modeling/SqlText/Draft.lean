import SqlText.Clause

/-!
# Drafts

A **draft** holds the fragments collected for each clause of a statement, in the order in which
they were added. Four edits change it. `Draft.add` adds a fragment, `Draft.replace` puts new
fragments in place of the old, `Draft.addJoined` adds a condition with a connective in front of it
unless it is the first, and `Draft.truncate` drops the last ones. The first three check before they
change anything: no blank fragment enters a draft.

The view of a draft is `Draft.fragments`, and a draft is no more than its fragments
(`Draft.ext_fragments`).
-/

namespace SqlText

/-- The fragments collected for each clause. -/
structure Draft where
  /-- The fragments of the `SELECT` clause. -/
  select : List Value := []
  /-- The fragments of the `FROM` clause. -/
  source : List Value := []
  /-- The inner joins. -/
  innerJoin : List Value := []
  /-- The left joins. -/
  leftJoin : List Value := []
  /-- The right joins. -/
  rightJoin : List Value := []
  /-- The fragments of the `WHERE` clause. -/
  filter : List Value := []
  /-- The fragments of the `GROUP BY` clause. -/
  groupBy : List Value := []
  /-- The fragments of the `HAVING` clause. -/
  having : List Value := []
  /-- The fragments of the `SORT BY` clause. -/
  sortBy : List Value := []
  deriving Repr, Inhabited

namespace Draft

/-- The draft without fragments. -/
def empty : Draft := {}

/-- The fragments of a clause, in the order in which they were added. -/
def fragments (d : Draft) : Clause → List Value
  | .select => d.select
  | .source => d.source
  | .innerJoin => d.innerJoin
  | .leftJoin => d.leftJoin
  | .rightJoin => d.rightJoin
  | .filter => d.filter
  | .groupBy => d.groupBy
  | .having => d.having
  | .sortBy => d.sortBy

/-- The draft with other fragments in one clause. -/
def setFragments (d : Draft) (c : Clause) (fs : List Value) : Draft :=
  match c with
  | .select => { d with select := fs }
  | .source => { d with source := fs }
  | .innerJoin => { d with innerJoin := fs }
  | .leftJoin => { d with leftJoin := fs }
  | .rightJoin => { d with rightJoin := fs }
  | .filter => { d with filter := fs }
  | .groupBy => { d with groupBy := fs }
  | .having => { d with having := fs }
  | .sortBy => { d with sortBy := fs }

@[simp] theorem fragments_setFragments_self (d : Draft) (c : Clause) (fs : List Value) :
    (d.setFragments c fs).fragments c = fs := by
  cases c <;> rfl

@[simp] theorem fragments_setFragments_of_ne (d : Draft) {c k : Clause} (h : k ≠ c)
    (fs : List Value) : (d.setFragments c fs).fragments k = d.fragments k := by
  revert h
  cases c <;> cases k <;> simp [fragments, setFragments]

@[simp] theorem fragments_empty (c : Clause) : empty.fragments c = [] := by
  cases c <;> rfl

/-- **A draft is its fragments.** -/
theorem ext_fragments {d e : Draft} (h : ∀ c, d.fragments c = e.fragments c) : d = e := by
  cases d
  cases e
  simp only [Draft.mk.injEq]
  exact ⟨h .select, h .source, h .innerJoin, h .leftJoin, h .rightJoin, h .filter, h .groupBy,
    h .having, h .sortBy⟩

/-- Whether a clause has no fragment. -/
def isEmptyAt (d : Draft) (c : Clause) : Bool := (d.fragments c).isEmpty

/-- How many fragments the draft holds. -/
def size (d : Draft) : Nat := (Clause.all.flatMap d.fragments).length

/-- The fragments of every clause. -/
def snapshot (d : Draft) : List (Clause × List Value) :=
  Clause.all.map fun c => (c, d.fragments c)

/-- A short description: how many fragments each clause has that has any. -/
def describe (d : Draft) : String :=
  let filled := Clause.all.filter fun c => !d.isEmptyAt c
  let counts := filled.map fun c => c.name ++ "=" ++ toString (d.fragments c).length
  "ClauseStore(" ++ String.intercalate ", " counts ++ ")"

/-! ## Edits -/

/-- Why an edit is refused. -/
inductive Refusal where
  /-- A fragment for the clause is blank. -/
  | blankFragment (clause : Clause)
  /-- The connective before a further condition of the clause is blank. -/
  | blankConnective (clause : Clause)
  /-- The replacement is no collection. -/
  | notCollection (given : Value)

/-- What is said of a refused edit. -/
def Refusal.message : Refusal → String
  | .blankFragment c => "Cannot add an empty fragment to the " ++ c.name ++ " clause."
  | .blankConnective c => "Cannot join " ++ c.name ++ " conditions with an empty connective."
  | .notCollection v => "'" ++ v.typeName ++ "' object is not iterable"

/-- Adds a fragment at the end of a clause. -/
def add (c : Clause) (fragment : Value) (d : Draft) : Except Refusal Draft :=
  if fragment.isBlank then .error (.blankFragment c)
  else .ok (d.setFragments c (d.fragments c ++ [fragment]))

/-- Puts the members of a collection in place of the fragments of a clause. -/
def replace (c : Clause) (collection : Value) (d : Draft) : Except Refusal Draft :=
  match collection.elements? with
  | none => .error (.notCollection collection)
  | some fs => if fs.any Value.isBlank then .error (.blankFragment c) else .ok (d.setFragments c fs)

/-- Adds a condition at the end of a clause: as it is when it is the first, and as a text with the
connective in front of it when it is not. -/
def addJoined (c : Clause) (fragment connective : Value) (d : Draft) : Except Refusal Draft :=
  if fragment.isBlank then .error (.blankFragment c)
  else if d.isEmptyAt c then .ok (d.setFragments c [fragment])
  else if connective.isBlank then .error (.blankConnective c)
  else
    let joined := Value.text (connective.toText ++ " " ++ fragment.toText)
    .ok (d.setFragments c (d.fragments c ++ [joined]))

/-- The first `length` members of a list; a negative length counts from its end. -/
def keep (length : Int) (fs : List Value) : List Value :=
  fs.take (if 0 ≤ length then length.toNat else fs.length - length.natAbs)

/-- The refusal of a value that is no length. -/
structure NotLength where
  /-- The value given for a length. -/
  given : Value

/-- What is said of a value that is no length. -/
def NotLength.message (_ : NotLength) : String :=
  "slice indices must be integers or None or have an __index__ method"

/-- The length a value stands for: null is no length at all, and a truth value counts as zero or
one. -/
def lengthOf : Value → Except NotLength Int
  | .null => .ok 0
  | v =>
    match v.asInt? with
    | some n => .ok n
    | none => .error ⟨v⟩

/-- Drops the fragments of a clause from a position on. -/
def truncate (c : Clause) (length : Int) (d : Draft) : Draft :=
  d.setFragments c (keep length (d.fragments c))

@[simp] theorem fragments_truncate_self (c : Clause) (length : Int) (d : Draft) :
    (d.truncate c length).fragments c = keep length (d.fragments c) :=
  fragments_setFragments_self d c _

@[simp] theorem fragments_truncate_of_ne {c k : Clause} (h : k ≠ c) (length : Int) (d : Draft) :
    (d.truncate c length).fragments k = d.fragments k :=
  fragments_setFragments_of_ne d h _

/-- An edit of a draft. -/
inductive Edit where
  /-- Adds a fragment. -/
  | add (clause : Clause) (fragment : Value)
  /-- Replaces the fragments. -/
  | replace (clause : Clause) (collection : Value)
  /-- Adds a condition with its connective. -/
  | addJoined (clause : Clause) (fragment connective : Value)
  /-- Drops the last fragments. -/
  | truncate (clause : Clause) (length : Int)

/-- The clause an edit is aimed at. -/
def Edit.clause : Edit → Clause
  | .add c _ | .replace c _ | .addJoined c _ _ | .truncate c _ => c

/-- The draft after an edit, or why the edit is refused. -/
def edit (d : Draft) : Edit → Except Refusal Draft
  | .add c fragment => d.add c fragment
  | .replace c collection => d.replace c collection
  | .addJoined c fragment connective => d.addJoined c fragment connective
  | .truncate c length => .ok (d.truncate c length)

/-- The draft after an edit, which is the draft itself where the edit is refused. -/
def after (d : Draft) (e : Edit) : Draft :=
  match d.edit e with
  | .ok d' => d'
  | .error _ => d

/-- The draft after a run of edits. -/
def run (d : Draft) (edits : List Edit) : Draft := edits.foldl after d

end Draft

end SqlText
