import SqlText.Text.Word

/-!
# Bind parameters

A **bind parameter** is a name in a statement for which a value is supplied when the statement is
executed: a word with a colon directly in front of it. The colon counts only if no word character,
colon or backslash stands before it, and the word only if no colon follows it; so neither `a:b` nor
`::b` nor `\:b` nor `:b:` names a parameter. `parameters` lists the names of a text in the order
in which they first appear.
-/

namespace SqlText.Binding

/-- Whether a colon after the given character – none at the start of the text – opens a
parameter. -/
def opens : Option Char → Bool
  | none => true
  | some c => !(c == ':' || c == '\x5c' || Text.isWord c)

/-- The parameter's name, read after its colon. -/
def name? (cs : List Char) : Option (List Char) :=
  match cs.takeWhile Text.isWord, cs.dropWhile Text.isWord with
  | [], _ => none
  | _, ':' :: _ => none
  | name, _ => some name

/-- The parameters of a text, one for each occurrence; `previous` is the character before the
text. -/
def occurrences (previous : Option Char) : List Char → List (List Char)
  | [] => []
  | c :: rest =>
    if c = ':' ∧ opens previous = true then
      (name? rest).toList ++ occurrences (some c) rest
    else occurrences (some c) rest

/-- The members of a list without repetitions, each at its first place. -/
def distinct {α : Type} [DecidableEq α] : List α → List α
  | [] => []
  | x :: rest => x :: (distinct rest).filter (· ≠ x)

@[simp] theorem mem_distinct {α : Type} [DecidableEq α] {x : α} {xs : List α} :
    x ∈ distinct xs ↔ x ∈ xs := by
  induction xs with
  | nil => rfl
  | cons y rest ih => by_cases h : x = y <;> simp [distinct, ih, h]

theorem nodup_distinct {α : Type} [DecidableEq α] (xs : List α) : (distinct xs).Nodup := by
  induction xs with
  | nil => exact List.nodup_nil
  | cons x rest ih =>
    refine List.nodup_cons.2 ⟨?_, List.Pairwise.filter _ ih⟩
    simp

/-- **The bind parameters of a text.** -/
def parameters (s : String) : List String :=
  (distinct (occurrences none s.toList)).map String.ofList

end SqlText.Binding
