import Sandbox.Calendar
import Sandbox.JavaScript.Convert

/-!
# Times

A time is a number of milliseconds from the beginning of 1970, in universal time.

## Main definitions

* `Time.ofNumber` : the time of a number, which may be none.
* `Time.iso?`, `Time.long` : times as texts.
-/

namespace Sandbox.JavaScript.Time

open Calendar

/-- The time of a number: whole milliseconds, and none beyond a hundred million days. -/
def ofNumber (x : Float) : Float :=
  match truncate? x with
  | some n => if n.natAbs ≤ 8640000000000000 then numberOfInt n else notANumber
  | none => notANumber

/-- A time in the form that machines exchange. -/
def iso? (time : Float) : Option String := do
  let n ← truncate? time
  return day n ++ "T" ++ clock n ++ "." ++ padded 3 (n % 1000).toNat ++ "Z"

/-- The short names of the days of a week. -/
def dayNames : List String := ["Sun", "Mon", "Tue", "Wed", "Thu", "Fri", "Sat"]

/-- The short names of the months. -/
def monthNames : List String :=
  ["Jan", "Feb", "Mar", "Apr", "May", "Jun", "Jul", "Aug", "Sep", "Oct", "Nov", "Dec"]

/-- A time in the form for people. -/
def long (time : Float) : String :=
  match truncate? time with
  | none => "Invalid Date"
  | some n =>
    let days := n / dayLength
    let date := civil days
    let year := if date.year < 0 then "-" ++ padded 6 date.year.natAbs else padded 4 date.year.toNat
    dayNames.getD ((days + 4) % 7).toNat "" ++ " " ++ monthNames.getD (date.month - 1) "" ++ " " ++
      padded 2 date.day ++ " " ++ year ++ " " ++ clock n ++ " GMT+0000"

end Sandbox.JavaScript.Time
