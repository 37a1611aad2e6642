import ContractOps.Fault

/-!
# Dates

Moments are seconds since the beginning of 1970 in universal time, in the Gregorian calendar
extended to all years. Dates are shown for the years 1 to 9999.
-/

namespace ContractOps

/-- A moment by date and time of day. -/
structure Moment where
  year : Int
  month : Nat
  day : Nat
  hour : Nat
  minute : Nat
  second : Nat
deriving DecidableEq, Repr

namespace Moment

/-- Year, month and day of the day so many days after the first of January 1970. Years are counted
from March here, so that the leap day is the last one, in cycles of 400 years. -/
def ofDays (days : Int) : Int × Nat × Nat :=
  let shifted := days + 719468
  let cycle := shifted.fdiv 146097
  let dayOfCycle := (shifted - cycle * 146097).toNat
  let yearOfCycle :=
    (dayOfCycle - dayOfCycle / 1460 + dayOfCycle / 36524 - dayOfCycle / 146096) / 365
  let dayOfYear := dayOfCycle - (365 * yearOfCycle + yearOfCycle / 4 - yearOfCycle / 100)
  let marchMonth := (5 * dayOfYear + 2) / 153
  let day := dayOfYear - (153 * marchMonth + 2) / 5 + 1
  let month := if marchMonth < 10 then marchMonth + 3 else marchMonth - 9
  let year := cycle * 400 + yearOfCycle
  (if month ≤ 2 then year + 1 else year, month, day)

/-- The moment so many seconds after the beginning of 1970. -/
def ofSeconds (seconds : Int) : Moment :=
  let days := seconds.fdiv 86400
  let rest := (seconds - days * 86400).toNat
  let (year, month, day) := ofDays days
  { year, month, day, hour := rest / 3600, minute := rest / 60 % 60, second := rest % 60 }

/-- Hour, minute and second. -/
def timeText (m : Moment) : String :=
  Digits.twoDigits m.hour ++ ":" ++ Digits.twoDigits m.minute ++ ":" ++ Digits.twoDigits m.second

/-- The date with the year first, and the time. -/
def text (m : Moment) : String :=
  Digits.text m.year ++ "-" ++ Digits.twoDigits m.month ++ "-" ++ Digits.twoDigits m.day ++ " " ++
    m.timeText

/-- The date with the day first, and the time. -/
def dayFirstText (m : Moment) : String :=
  Digits.twoDigits m.day ++ "/" ++ Digits.twoDigits m.month ++ "/" ++ Digits.text m.year ++ " " ++
    m.timeText

/-- Whether a year fits into 32 bits, counted from 1900. -/
def fits (year : Int) : Bool := -0x80000000 ≤ year - 1900 && year - 1900 < 0x80000000

/-- The date and time of a moment, which has to lie in the years 1 to 9999. Another year is told
as a number of 32 bits. -/
def dateText (seconds : Int) : Except Fault String :=
  if seconds < -0x8000000000000000 ∨ 0x8000000000000000 ≤ seconds then .error .overflow
  else
    let m := ofSeconds seconds
    if !fits m.year then .error .clock
    else if m.year < 1 ∨ 9999 < m.year then
      .error (.value (.yearOutOfRange (m.year.bmod 0x100000000)))
    else .ok m.text

end Moment

end ContractOps
