import SqlText.Decimal

/-!
# Numbers in scientific and fixed notation

The three notations of a fractional number: with a fixed number of digits behind the point, in
scientific notation, or in whichever of the two suits its size. The number is given in full, as
digits of which none stands to the left of the last place before the point
(`Decimal.exact`, `Decimal.ofInt?`), so that it is rounded only once: to the nearest, a half to
the even neighbour. The sign is left to the caller.
-/

namespace SqlText.Template

/-- The digits of a number rounded to `count` significant digits, and the power of ten of the
first; missing digits are zeros. -/
def significant (d : Decimal) (count : Nat) : List Char × Int :=
  let size := Decimal.digitCount d.digits
  let power : Int := size - 1 + d.exponent
  if size ≤ count then (Nat.toDigits 10 d.digits ++ List.replicate (count - size) '0', power)
  else
    let rounded := Decimal.roundDiv d.digits (Nat.pow 10 (size - count))
    if rounded = Nat.pow 10 count then (Nat.toDigits 10 (rounded / 10), power + 1)
    else (Nat.toDigits 10 rounded, power)

/-- Digits with a point behind the first of them, which is left out where it is the last character
unless it is to be kept. -/
def pointed (keep : Bool) (whole fraction : List Char) : List Char :=
  whole ++ (if fraction.isEmpty && !keep then [] else '.' :: fraction)

/-- Fixed notation with `places` digits behind the point. Those that the number in full does not
have are zeros. -/
def fixedText (keep : Bool) (d : Decimal) (places : Nat) : List Char :=
  let shown := min places d.places
  let digits := Nat.toDigits 10 (Decimal.roundDiv d.digits (Nat.pow 10 (d.places - shown)))
  let digits := List.replicate (shown + 1 - digits.length) '0' ++ digits
  let point := digits.length - shown
  pointed keep (digits.take point) (digits.drop point ++ List.replicate (places - shown) '0')

/-- The digits in scientific notation, the first of them at the power of ten. -/
def scientificDigits (keep : Bool) (digits : List Char) (power : Int) : List Char :=
  pointed keep (digits.take 1) (digits.drop 1) ++ 'e' :: (Decimal.exponentText power).toList

/-- The greatest number of digits that scientific notation can be asked for. -/
def digitLimit : Nat := 2147483647

/-- Scientific notation with `places` digits behind the point, or with none where they and the
digit before the point are too many to ask for. -/
def scientificText (keep : Bool) (d : Decimal) (places : Nat) : List Char :=
  let (digits, power) := significant d (if places < digitLimit then places + 1 else 1)
  scientificDigits keep digits power

/-- Strips the zeros at the end. -/
def dropZeros (cs : List Char) : List Char := (cs.reverse.dropWhile (· == '0')).reverse

/-- General notation with `count` significant digits: scientific where the number has more digits
than that before the point or more than three zeros right behind it, fixed elsewhere; zeros at the
end are kept only with the point. -/
def generalText (keep : Bool) (d : Decimal) (count : Nat) : List Char :=
  let count := max count 1
  let (digits, power) :=
    significant d (if keep then count else min count (Decimal.digitCount d.digits))
  let trim := if keep then id else dropZeros
  if power < -4 ∨ count ≤ power then
    scientificDigits keep (digits.take 1 ++ trim (digits.drop 1)) power
  else if power < 0 then
    pointed keep ['0'] (trim (List.replicate (-power - 1).toNat '0' ++ digits))
  else
    let point := power.toNat + 1
    pointed keep (digits.take point) (trim (digits.drop point))

end SqlText.Template
