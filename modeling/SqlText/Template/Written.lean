import SqlText.Template.Basic
import SqlText.Template.Fault
import SqlText.Template.Number
import SqlText.Value

/-!
# Writing one value

The letter at the end of a directive says how its value is written (`write`). What comes of it is
kept in parts, since padding with zeros goes between them: the sign, the mark of the base, and the
digits. A text has only the last part, and zeros are no padding for it.
-/

namespace SqlText.Template

/-- A value as it is written, before it is padded. -/
structure Written where
  /-- The sign of a number. -/
  sign : List Char := []
  /-- The mark of its base. -/
  mark : List Char := []
  /-- The digits, or the text. -/
  body : List Char
  /-- Whether it is a number. -/
  numeric : Bool := false

/-- The value padded to a width: on the right, with zeros behind the sign and the mark of a number,
or with spaces on the left. -/
def Written.pad (w : Written) (flags : Flags) (width : Nat) : List Char :=
  let missing := width - (w.sign.length + w.mark.length + w.body.length)
  if flags.left then w.sign ++ w.mark ++ w.body ++ List.replicate missing ' '
  else if w.numeric && flags.zero then
    w.sign ++ w.mark ++ List.replicate missing '0' ++ w.body
  else List.replicate missing ' ' ++ w.sign ++ w.mark ++ w.body

/-- A text, cut to the precision. -/
def writeText (precision : Option Nat) (s : String) : Written :=
  { body := match precision with
      | some p => s.toList.take p
      | none => s.toList }

/-- The sign of a number. -/
def signOf (flags : Flags) (negative : Bool) : List Char :=
  if negative then ['-'] else if flags.plus then ['+'] else if flags.space then [' '] else []

/-- The greatest precision of whole numbers. -/
def wholePrecisionLimit : Nat := 2147483644

/-- A whole number in some base, with at least as many digits as the precision says. -/
def writeWhole (base : Nat) (mark : List Char) (flags : Flags) (precision : Option Nat)
    (n : Int) : Except Fault Written :=
  if wholePrecisionLimit < precision.getD 0 then .error .precisionTooLarge
  else
    let digits := Nat.toDigits base n.natAbs
    .ok { sign := signOf flags (decide (n < 0))
          mark := if flags.alternate then mark else []
          body := List.replicate (precision.getD 0 - digits.length) '0' ++ digits
          numeric := true }

/-- The letters in upper case. -/
def Written.upper (w : Written) : Written :=
  { w with mark := w.mark.map Char.toUpper, body := w.body.map Char.toUpper }

/-- A number in a notation of fractional ones, with six digits where no precision is given. What
is no number has a word instead of digits. -/
def writeReal (form : Bool → Decimal → Nat → List Char) (flags : Flags)
    (precision : Option Nat) (v : Value) : Except Fault Written :=
  let number (d : Decimal) : Written :=
    { sign := signOf flags d.negative, body := form flags.alternate d (precision.getD 6),
      numeric := true }
  match v with
  | .decimal d => .ok (number d.exact)
  | .infinite negative =>
    .ok { sign := signOf flags negative, body := ['i', 'n', 'f'], numeric := true }
  | .undefined => .ok { sign := signOf flags false, body := ['n', 'a', 'n'], numeric := true }
  | v =>
    match v.asInt? with
    | none => .error (.notReal v.typeName)
    | some n =>
      match Decimal.ofInt? n with
      | some d => .ok (number d)
      | none => .error .tooLarge

/-- A number under one of the letters that need one: a fractional number without what stands behind
the point. -/
def writeNumber (conversion : Char) (flags : Flags) (precision : Option Nat) (v : Value) :
    Except Fault Written :=
  match v with
  | .decimal d => writeWhole 10 [] flags precision d.truncated
  | .infinite _ => .error .infiniteWhole
  | .undefined => .error .undefinedWhole
  | v =>
    match v.asInt? with
    | some n => writeWhole 10 [] flags precision n
    | none => .error (.notNumber conversion v.typeName)

/-- A whole number under one of the letters that need a whole number. -/
def writeInBase (conversion : Char) (base : Nat) (mark : List Char) (flags : Flags)
    (precision : Option Nat) (v : Value) : Except Fault Written :=
  match v.asInt? with
  | some n => writeWhole base mark flags precision n
  | none => .error (.notWhole conversion v.typeName)

/-- A single character, given by itself or by its code. -/
def writeCharacter (v : Value) : Except Fault Written :=
  match v.asText?, v.asInt? with
  | some s, _ => if s.toList.length = 1 then .ok { body := s.toList } else .error .notCharacter
  | none, some n =>
    if 0 ≤ n ∧ n < 0x110000 then .ok { body := [Char.ofNat n.toNat] } else .error .notCode
  | none, none => .error .notCharacter

/-- **A value written** as the letter at the end of a directive says. -/
def write (conversion : Char) (position : Nat) (flags : Flags) (precision : Option Nat)
    (v : Value) : Except Fault Written :=
  match conversion with
  | 's' => .ok (writeText precision v.toText)
  | 'r' => .ok (writeText precision v.literal)
  | 'a' => .ok (writeText precision (Text.asciiOnly v.literal))
  | 'd' | 'i' | 'u' => writeNumber conversion flags precision v
  | 'o' => writeInBase 'o' 8 ['0', 'o'] flags precision v
  | 'x' => writeInBase 'x' 16 ['0', 'x'] flags precision v
  | 'X' => (writeInBase 'X' 16 ['0', 'x'] flags precision v).map Written.upper
  | 'f' => writeReal fixedText flags precision v
  | 'F' => (writeReal fixedText flags precision v).map Written.upper
  | 'e' => writeReal scientificText flags precision v
  | 'E' => (writeReal scientificText flags precision v).map Written.upper
  | 'g' => writeReal generalText flags precision v
  | 'G' => (writeReal generalText flags precision v).map Written.upper
  | 'c' => writeCharacter v
  | c => .error (.unsupported c position)

end SqlText.Template
