/-!
# Timestamps

The moment at which something was said is counted in seconds from the start of 1970, in universal
time, and written as a date of the Gregorian calendar and a time of day (`timeText`).

The local time is assumed to be universal time. Under another zone the same dates would be written
with the offset of the zone, which may change within a year; nothing but the text of a time hangs
on it.
-/

namespace SqlText.Log

/-- The text of a number with at least two digits. -/
def twoDigits (n : Nat) : String := if n < 10 then "0" ++ toString n else toString n

/-- The text of a number with at least four digits. -/
def fourDigits (n : Nat) : String :=
  let s := toString n
  String.ofList (List.replicate (4 - s.length) '0') ++ s

/-- Year, month and day of a day counted from 1 January 1970. The count is moved to 1 March of the
year 0, so that the leap day comes last in a year. -/
def civilDate (day : Nat) : Nat × Nat × Nat :=
  let shifted := day + 719468
  let era := shifted / 146097
  let ofEra := shifted % 146097
  let yearOfEra := (ofEra - ofEra / 1460 + ofEra / 36524 - ofEra / 146096) / 365
  let ofYear := ofEra - (365 * yearOfEra + yearOfEra / 4 - yearOfEra / 100)
  let shiftedMonth := (5 * ofYear + 2) / 153
  let day := ofYear - (153 * shiftedMonth + 2) / 5 + 1
  let month := if shiftedMonth < 10 then shiftedMonth + 3 else shiftedMonth - 9
  (yearOfEra + 400 * era + (if month ≤ 2 then 1 else 0), month, day)

/-- Date and time of a moment, given in seconds from the start of 1970. -/
def timeText (seconds : Nat) : String :=
  let (year, month, day) := civilDate (seconds / 86400)
  let rest := seconds % 86400
  fourDigits year ++ "-" ++ twoDigits month ++ "-" ++ twoDigits day ++ " "
    ++ twoDigits (rest / 3600) ++ ":" ++ twoDigits (rest / 60 % 60) ++ ":" ++ twoDigits (rest % 60)

end SqlText.Log
