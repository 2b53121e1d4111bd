/-!
# Decimal numbers of the shortest form

A fractional number is held to the precision of a binary floating-point number with 53
significant bits, and written with **the fewest decimal digits that read back as that number**.
`Decimal.ofNumeral?` takes a decimal numeral to this form: `nearestBinary` finds the binary
number, an exact tie going to the even significand, and `shortest` looks for the coarsest decimal
grid one of whose points next to the number reads back as it; of two such points the nearer is
taken. Everything is exact arithmetic on natural numbers.

The text is positional while the point stands at most sixteen digits to the right of the first
digit and at most four zeros follow it directly, and in scientific notation beyond.
-/

namespace SqlText

/-- A decimal number: the digits, read as a natural number, times a power of ten. -/
structure Decimal where
  /-- Whether a minus sign is written; zero may have one. -/
  negative : Bool
  /-- The significant digits. -/
  digits : Nat
  /-- The power of ten of the last digit. -/
  exponent : Int
  deriving DecidableEq, Repr, Inhabited

namespace Decimal

/-! ## Exact quotients -/

/-- The quotient rounded to the nearest natural number, a half going to the even neighbour. -/
def roundDiv (num den : Nat) : Nat :=
  let q := num / den
  let r := num % den
  if 2 * r < den then q
  else if den < 2 * r then q + 1
  else q + q % 2

/-- The number `m · base ^ e` as a quotient. -/
def quotient (m base : Nat) (e : Int) : Nat × Nat :=
  if 0 ≤ e then (m * base.pow e.toNat, 1) else (m, base.pow (-e).toNat)

/-- How many decimal digits a natural number has. -/
def digitCount (n : Nat) : Nat := (Nat.toDigits 10 n).length

/-- The power of ten of the first significant digit of a positive quotient. -/
def leadingPower (num den : Nat) : Int :=
  if den ≤ num then (digitCount (num / den) : Int) - 1
  else
    let n := digitCount (den / num)
    if den = num * Nat.pow 10 (n - 1) then 1 - (n : Int) else -(n : Int)

/-! ## Binary numbers -/

/-- The binary number nearest to a quotient: a significand below `2 ^ 53` and its power of two,
which is never below `-1074`. -/
def nearestBinary (num den : Nat) : Nat × Int :=
  if num = 0 then (0, 0)
  else
    let guess : Int := (num.log2 : Int) - den.log2 - 53
    let (m, unit) := quotient (Nat.pow 2 53) 2 guess
    let power := max (if m * den ≤ num * unit then guess + 1 else guess) (-1074)
    let (top, bottom) := quotient num 2 (-power)
    let significand := roundDiv top (bottom * den)
    if significand = Nat.pow 2 53 then (Nat.pow 2 52, power + 1) else (significand, power)

/-- The quotient's two neighbours on the grid of multiples of `10 ^ e`, the nearer one first; of
two equally near the even one. -/
def gridNeighbours (num den : Nat) (e : Int) : List Nat :=
  let (top, bottom) := quotient num 10 (-e)
  let low := top / (bottom * den)
  if roundDiv top (bottom * den) = low then [low, low + 1] else [low + 1, low]

/-- Whether `n · 10 ^ e` is read as the binary number `m · 2 ^ q`. -/
def readsAs (n : Nat) (e : Int) (m : Nat) (q : Int) : Bool :=
  let (num, den) := quotient n 10 e
  nearestBinary num den == (m, q)

/-- The digits and the power of ten of the shortest decimal that reads back as a binary number.
Seventeen digits always do. -/
def shortest (m : Nat) (q : Int) : Nat × Int :=
  let (num, den) := quotient m 2 q
  let lead := leadingPower num den
  let hits := (List.range' 1 17).findSome? fun (count : Nat) =>
    let e := lead + 1 - (count : Nat)
    ((gridNeighbours num den e).find? fun n => readsAs n e m q).map fun n => (n, e)
  hits.getD (0, 0)

/-- Strips trailing zeros into the power of ten. The fuel is the digit count. -/
def stripZeros : Nat → Nat → Int → Nat × Int
  | 0, n, e => (n, e)
  | fuel + 1, n, e => if n ≠ 0 ∧ n % 10 = 0 then stripZeros fuel (n / 10) (e + 1) else (n, e)

/-- The power of two of the greatest binary numbers. -/
def greatestPower : Int := 971

/-- The number a decimal numeral denotes, in its shortest form; none where it exceeds the greatest
binary number. Numerals with their first digit far beyond either end of the range need no
calculation. -/
def ofNumeral? (negative : Bool) (digits : Nat) (exponent : Int) : Option Decimal :=
  let places := exponent + digitCount digits
  if digits = 0 ∨ places < -400 then some ⟨negative, 0, 0⟩
  else if 400 < places then none
  else
    let (num, den) := quotient digits 10 exponent
    let (m, q) := nearestBinary num den
    if m = 0 then some ⟨negative, 0, 0⟩
    else if greatestPower < q then none
    else
      let (n, e) := shortest m q
      let (n, e) := stripZeros (digitCount n) n e
      some ⟨negative, n, e⟩

/-! ## Binary numbers in full -/

/-- A binary number in full: times a power of ten that is not positive, it is a whole number. -/
def ofBinary (negative : Bool) (m : Nat) (q : Int) : Decimal :=
  if 0 ≤ q then ⟨negative, m * Nat.pow 2 q.toNat, 0⟩
  else ⟨negative, m * Nat.pow 5 (-q).toNat, q⟩

/-- The binary number that a decimal number stands for, in full. -/
def exact (d : Decimal) : Decimal :=
  let (num, den) := quotient d.digits 10 d.exponent
  let (m, q) := nearestBinary num den
  ofBinary d.negative m q

/-- The binary number nearest to a whole number, in full; none where it exceeds the greatest. -/
def ofInt? (n : Int) : Option Decimal :=
  let (m, q) := nearestBinary n.natAbs 1
  if greatestPower < q then none else some (ofBinary (decide (n < 0)) m q)

/-- How many digits stand behind the point of the number in full. -/
def places (d : Decimal) : Nat := (-d.exponent).toNat

/-- Whether only zeros stand behind the point. -/
def isWhole (d : Decimal) : Bool := d.exact.digits % Nat.pow 10 d.exact.places == 0

/-- The whole number before the point. -/
def truncated (d : Decimal) : Int :=
  let n : Int := (d.exact.digits / Nat.pow 10 d.exact.places : Nat)
  if d.negative then -n else n

/-! ## Text -/

/-- A number's digits filled up with zeros on the right. -/
def zeros (n : Nat) : String := String.ofList (List.replicate n '0')

/-- The exponent of scientific notation: a sign and at least two digits. -/
def exponentText (e : Int) : String :=
  let size := toString e.natAbs
  (if e < 0 then "-" else "+") ++ (if size.length < 2 then "0" ++ size else size)

/-- The text of the number. -/
def text (d : Decimal) : String :=
  let digits := Nat.toDigits 10 d.digits
  let sign := if d.negative then "-" else ""
  let point : Int := if d.digits = 0 then 1 else digits.length + d.exponent
  let body :=
    if -4 ≤ point - 1 ∧ point - 1 < 16 then
      if point ≤ 0 then "0." ++ zeros (-point).toNat ++ String.ofList digits
      else if digits.length ≤ point.toNat then
        String.ofList digits ++ zeros (point.toNat - digits.length) ++ ".0"
      else
        String.ofList (digits.take point.toNat) ++ "." ++ String.ofList (digits.drop point.toNat)
    else
      let tail := String.ofList (digits.drop 1)
      String.ofList (digits.take 1) ++ (if tail.isEmpty then "" else "." ++ tail) ++ "e"
        ++ exponentText (point - 1)
  sign ++ body

end Decimal

end SqlText
