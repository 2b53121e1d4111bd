import SqlText.Identifier
import SqlText.Statement

/-!
# Insert statements

The statement that inserts one row into a table. Columns and values are written as they are given,
separated by commas, and the list of columns is followed by the values with no space between.
Nothing is checked: the lists may be empty or of different lengths.
-/

namespace SqlText.Insert

/-- Why an insert statement cannot be written. -/
inductive Refusal where
  /-- The columns or the values are no collection. -/
  | notCollection (given : Value)
  /-- A column or a value is no text. -/
  | notText (e : NotText)

/-- What is said of an insert statement that cannot be written. -/
def Refusal.message : Refusal → String
  | .notCollection _ => "can only join an iterable"
  | .notText e => e.message

/-- The members of a collection, separated by commas. -/
def commaList (collection : Value) : Except Refusal String :=
  match collection.elements? with
  | none => .error (.notCollection collection)
  | some vs => (joinTexts ", " vs).mapError .notText

/-- The text around the two lists. -/
def layout (table : Value) (columns values : String) : String :=
  "INSERT INTO " ++ quoteIdentifier table ++ " (" ++ columns ++ ")VALUES (" ++ values ++ ");"

/-- **The insert statement** for one row. The columns are joined before the values, so of two
faults it is theirs that is reported. -/
def statement (table columns values : Value) : Except Refusal String := do
  let columns ← commaList columns
  let values ← commaList values
  return layout table columns values

end SqlText.Insert
