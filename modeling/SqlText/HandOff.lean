import SqlText.Attempt
import SqlText.Binding
import SqlText.Log.Entry
import SqlText.Value

/-!
# Handing statements off

Before a statement goes to whoever executes it, it is checked: it must be a text, hold more than
blanks and its semicolon, and end with the semicolon once the blanks around it are dropped. The
statement itself goes through unchanged, together with the names of its bind parameters.

The names are found by a library that is not part of this one. That it finds those that `Binding`
describes, in the order in which they first appear, is an assumption on it.
-/

namespace SqlText.HandOff

/-- Why a statement is not fit to be handed off. -/
inductive Refusal where
  /-- It is no text. -/
  | notText (given : Value)
  /-- It holds nothing, or nothing but a semicolon. -/
  | empty
  /-- It does not end with a semicolon. -/
  | unterminated (trimmed : String)

/-- What is said of a statement that is not fit to be handed off. -/
def Refusal.message : Refusal → String
  | .notText v => "Expected statement text, got " ++ v.typeName
  | .empty => "Cannot hand off an empty statement."
  | .unterminated s => "Statement is not terminated with ';': " ++ s

/-- The statement that a value is, if it is fit to be handed off. -/
def check (statement : Value) : Except Refusal String :=
  match statement with
  | .text s =>
    let trimmed := Text.trimBlanks s.toList
    if trimmed = [] ∨ trimmed = [';'] then .error .empty
    else if trimmed.getLast? = some ';' then .ok s
    else .error (.unterminated (String.ofList trimmed))
  | v => .error (.notText v)

/-- What is handed off. -/
structure Prepared where
  /-- The statement. -/
  text : String
  /-- Its bind parameters, in the order in which they first appear. -/
  parameters : List String
  deriving DecidableEq, Repr

/-- The channel this part of the library speaks on. -/
def channel : String := "utils.statement_utils"

/-- **Prepares a statement for execution**, and says so in the log. The names of the bind
parameters are those that are assumed to be found. -/
def prepare {σ : Type} (statement : Value) : Attempt Log.Entry σ Refusal Prepared := do
  let s ← Attempt.ofExcept (check statement)
  Attempt.write (Log.Entry.debug channel ("Prepared statement for execution: " ++ s))
  return ⟨s, Binding.parameters s⟩

end SqlText.HandOff
