import SqlText.Decimal
import SqlText.Text.Blank
import SqlText.Text.Quoted

/-!
# Values

Names, conditions, aliases and fragments are meant to be texts, but nothing stops a caller from
handing over something else, and much of the library's behaviour is what happens then. A `Value`
is whatever a caller may hand over. It is **blank** when it is null or a blank text – no other
value is, neither `0` nor `false` nor an empty list – and it has a text, which for a text is the
text itself and for every other value its literal.

Every value is assumed to have a text. An interpreter that limits how many digits it writes of a
whole number, or how deep it follows lists and objects in one another, gives none beyond its
limits; such values are left out.
-/

namespace SqlText

/-- What a caller may hand over where a text is expected. -/
inductive Value where
  /-- No value. -/
  | null
  /-- A truth value. -/
  | bool (b : Bool)
  /-- A whole number of any size. -/
  | int (n : Int)
  /-- A fractional number. -/
  | decimal (d : Decimal)
  /-- What exceeds every fractional number, on either side. -/
  | infinite (negative : Bool)
  /-- The result of a calculation on fractional numbers that has none. -/
  | undefined
  /-- A text. -/
  | text (s : String)
  /-- A list of values. -/
  | list (items : List Value)
  /-- Named values, in the order given. -/
  | object (entries : List (String × Value))
  deriving Repr, Inhabited

namespace Value

/-- The value of a decimal numeral with a point or an exponent. -/
def ofNumeral (negative : Bool) (digits : Nat) (exponent : Int) : Value :=
  match Decimal.ofNumeral? negative digits exponent with
  | some d => .decimal d
  | none => .infinite negative

/-! ## Kinds of values -/

/-- The word for the kind of a value, as messages name it. -/
def typeName : Value → String
  | .null => "NoneType"
  | .bool _ => "bool"
  | .int _ => "int"
  | .decimal _ | .infinite _ | .undefined => "float"
  | .text _ => "str"
  | .list _ => "list"
  | .object _ => "dict"

/-- The text that a value is, if it is one. -/
def asText? : Value → Option String
  | .text s => some s
  | _ => none

/-- The whole number that a value is: a truth value counts as zero or one. -/
def asInt? : Value → Option Int
  | .int n => some n
  | .bool b => some (if b then 1 else 0)
  | _ => none

/-- The whole number that a value is equal to, which may also be a fractional number without a
fraction. -/
def equalInt? : Value → Option Int
  | .decimal d => if d.isWhole then some d.truncated else none
  | v => v.asInt?

/-- **Blankness**: null, or a text of blanks only. -/
def isBlank : Value → Bool
  | .null => true
  | .text s => Text.isBlankText s
  | _ => false

/-- Whether a value counts as yes where a yes or no is asked for: everything does but null,
false, zero and what is empty. -/
def isTruthy : Value → Bool
  | .null => false
  | .bool b => b
  | .int n => n ≠ 0
  | .decimal d => d.digits ≠ 0
  | .infinite _ | .undefined => true
  | .text s => !s.isEmpty
  | .list items => !items.isEmpty
  | .object entries => !entries.isEmpty

/-- The members of a value that stands for a collection: the items of a list, the characters of a
text, the names of an object. Other values have none. -/
def elements? : Value → Option (List Value)
  | .list items => some items
  | .text s => some (s.toList.map fun c => .text (String.singleton c))
  | .object entries => some (entries.map fun e => .text e.1)
  | _ => none

/-! ## Text -/

mutual

/-- The literal of a value: the form in which it stands inside a list. -/
def literal : Value → String
  | .null => "None"
  | .bool true => "True"
  | .bool false => "False"
  | .int n => toString n
  | .decimal d => d.text
  | .infinite negative => if negative then "-inf" else "inf"
  | .undefined => "nan"
  | .text s => Text.quoted s
  | .list items => "[" ++ String.intercalate ", " (itemLiterals items) ++ "]"
  | .object entries => "\x7b" ++ String.intercalate ", " (entryLiterals entries) ++ "\x7d"

/-- The literals of the items of a list. -/
def itemLiterals : List Value → List String
  | [] => []
  | v :: rest => literal v :: itemLiterals rest

/-- The literals of the entries of an object. -/
def entryLiterals : List (String × Value) → List String
  | [] => []
  | (name, v) :: rest => (Text.quoted name ++ ": " ++ literal v) :: entryLiterals rest

end

/-- The text a value has where it is written into a text. -/
def toText : Value → String
  | .text s => s
  | v => literal v

@[simp] theorem toText_text (s : String) : (Value.text s).toText = s := rfl

end Value

end SqlText
