import SqlText.Text.Quoted

/-!
# Faults

All that can be wrong with a directive of a template: it may be broken off, it may ask for a field
that is not there, or it may end with a letter that does not suit the value. A value is named by
the word for its kind. Each fault has its words (`Fault.message`).
-/

namespace SqlText.Template

/-- What is wrong with a directive. -/
inductive Fault where
  /-- The record has no such field. -/
  | unknownField (name : String)
  /-- The name is not closed. -/
  | openKey
  /-- The template ends before the directive does. -/
  | incomplete
  /-- There is no argument left. -/
  | missingArgument
  /-- An asterisk meets an argument that is no whole number. -/
  | sizeNotWhole
  /-- The width is beyond all bounds. -/
  | widthTooBig
  /-- The precision is beyond all bounds. -/
  | precisionTooBig
  /-- The width given by an argument is. -/
  | widthOverflow
  /-- The precision given by an argument is. -/
  | precisionOverflow
  /-- The precision is beyond what the digits of a whole number can be filled up to. -/
  | precisionTooLarge
  /-- There is no room for a text of the width. -/
  | noRoom
  /-- A whole number is needed. -/
  | notWhole (conversion : Char) (kind : String)
  /-- A number is needed. -/
  | notNumber (conversion : Char) (kind : String)
  /-- A fractional number is needed. -/
  | notReal (kind : String)
  /-- The number exceeds the range of fractional numbers. -/
  | tooLarge
  /-- What exceeds every fractional number is no whole number. -/
  | infiniteWhole
  /-- The result of a calculation that has none is no whole number. -/
  | undefinedWhole
  /-- The number is no code of a character. -/
  | notCode
  /-- A character is needed. -/
  | notCharacter
  /-- The letter is none that ends a directive. -/
  | unsupported (conversion : Char) (position : Nat)
  deriving DecidableEq, Repr

/-- What is said of a fault. -/
def Fault.message : Fault → String
  | .unknownField name => "Formatting field not found in record: " ++ Text.quoted name
  | .openKey => "incomplete format key"
  | .incomplete => "incomplete format"
  | .missingArgument => "not enough arguments for format string"
  | .sizeNotWhole => "* wants int"
  | .widthTooBig => "width too big"
  | .precisionTooBig => "precision too big"
  | .widthOverflow => "Python int too large to convert to C ssize_t"
  | .precisionOverflow => "Python int too large to convert to C int"
  | .precisionTooLarge => "precision too large"
  | .noRoom => ""
  | .notWhole c kind =>
    "%" ++ String.singleton c ++ " format: an integer is required, not " ++ kind
  | .notNumber c kind =>
    "%" ++ String.singleton c ++ " format: a real number is required, not " ++ kind
  | .notReal kind => "must be real number, not " ++ kind
  | .tooLarge => "int too large to convert to float"
  | .infiniteWhole => "cannot convert float infinity to integer"
  | .undefinedWhole => "cannot convert float NaN to integer"
  | .notCode => "%c arg not in range(0x110000)"
  | .notCharacter => "%c requires int or char"
  | .unsupported c position =>
    let shown := if 31 ≤ c.toNat ∧ c.toNat ≤ 126 then c else '?'
    "unsupported format character '" ++ String.singleton shown ++ "' (0x"
      ++ String.ofList (Nat.toDigits 16 c.toNat) ++ ") at index " ++ toString position

end SqlText.Template
