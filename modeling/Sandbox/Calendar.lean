/-!
# Calendar

Dates and times of day in universal time. A time is a number of milliseconds from the beginning of
1970.

## Main definitions

* `Civil`, `civil` : the date of a day.
* `clock` : the time of day as a text.
* `day`, `stamp` : a time as a text for a log.
-/

namespace Sandbox.Calendar

/-- The parts of a date. -/
structure Civil where
  /-- The year. -/
  year : Int
  /-- The month, from one. -/
  month : Nat
  /-- The day, from one. -/
  day : Nat
  deriving DecidableEq, Repr

/-- The date that is so many days after the first day of 1970. Eras have 400 years and begin in
March. -/
def civil (days : Int) : Civil :=
  let shifted := days + 719468
  let era := shifted / 146097
  let dayOfEra := (shifted % 146097).toNat
  let yearOfEra := (dayOfEra - dayOfEra / 1460 + dayOfEra / 36524 - dayOfEra / 146096) / 365
  let dayOfYear := dayOfEra - (365 * yearOfEra + yearOfEra / 4 - yearOfEra / 100)
  let shiftedMonth := (5 * dayOfYear + 2) / 153
  let month := if shiftedMonth < 10 then shiftedMonth + 3 else shiftedMonth - 9
  let year := (yearOfEra : Int) + era * 400
  ⟨if month ≤ 2 then year + 1 else year, month, dayOfYear - (153 * shiftedMonth + 2) / 5 + 1⟩

/-- A number with zeros in front up to a width. -/
def padded (width n : Nat) : String :=
  let digits := toString n
  String.ofList (List.replicate (width - digits.length) '0') ++ digits

/-- A year with four digits, or with a sign and six. -/
def yearText (year : Int) : String :=
  if 0 ≤ year ∧ year ≤ 9999 then padded 4 year.toNat
  else (if year < 0 then "-" else "+") ++ padded 6 year.natAbs

/-- The number of milliseconds in a day. -/
def dayLength : Int := 86400000

/-- The time of day as hours, minutes and seconds. -/
def clock (milliseconds : Int) : String :=
  let n := (milliseconds % dayLength).toNat / 1000
  padded 2 (n / 3600) ++ ":" ++ padded 2 (n / 60 % 60) ++ ":" ++ padded 2 (n % 60)

/-- The date of a time. -/
def day (milliseconds : Int) : String :=
  let date := civil (milliseconds / dayLength)
  yearText date.year ++ "-" ++ padded 2 date.month ++ "-" ++ padded 2 date.day

/-- A time as it stands in a log, given in microseconds. -/
def stamp (microseconds : Int) : String :=
  let milliseconds := microseconds / 1000
  let fraction := (microseconds % 1000000).toNat
  day milliseconds ++ "T" ++ clock milliseconds ++ "." ++ padded 6 fraction ++ "Z"

end Sandbox.Calendar
