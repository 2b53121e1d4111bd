import SqlText.Value

/-!
# Identifiers

The name of a table or a column is written between backticks, as it is given: nothing in it is
escaped, and a value that is no text is written by its text. A column of a table is the quoted
table, a point and the quoted column.
-/

namespace SqlText

/-- The quoted name of a table or a column. -/
def quoteIdentifier (name : Value) : String := "`" ++ name.toText ++ "`"

/-- The quoted name of a column of a table. -/
def tableColumn (table column : Value) : String :=
  quoteIdentifier table ++ "." ++ quoteIdentifier column

/-- A text with an alias behind it, unless the alias is blank. -/
def withAlias (base glue : String) (label : Value) : String :=
  if label.isBlank then base else base ++ glue ++ label.toText

end SqlText
