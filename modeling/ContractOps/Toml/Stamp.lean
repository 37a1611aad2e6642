import ContractOps.Numeral.Reading
import ContractOps.Toml.Flaw

/-!
# Dates and times

    1979-05-27     07:32:00.999     1979-05-27T07:32:00.5-07:00

A stamp is a date, a time of day, or both, then with the distance from universal time if the text
gives one. Only the places of the digits count: what stands between them is free, but for a `-` that
has to occur.
-/

namespace ContractOps.Toml

/-- A day of the calendar. -/
structure Day where
  year : Nat
  month : Nat
  day : Nat
deriving DecidableEq, Repr

/-- A time of day, to the millionth of a second. -/
structure Time where
  hour : Nat
  minute : Nat
  second : Nat
  micro : Nat
deriving DecidableEq, Repr

/-- A date, a time, or both with a distance from universal time in minutes. -/
inductive Stamp where
  | date (day : Day)
  | time (time : Time)
  | both (day : Day) (time : Time) (offset : Option Int)
deriving DecidableEq, Repr

/-! ### The calendar -/

/-- Whether a year has a leap day. -/
def isLeap (year : Nat) : Bool := year % 4 == 0 && (year % 100 != 0 || year % 400 == 0)

/-- The number of days of a month. -/
def monthLength (year month : Nat) : Nat :=
  if month = 2 then (if isLeap year then 29 else 28)
  else if month = 4 ∨ month = 6 ∨ month = 9 ∨ month = 11 then 30
  else 31

/-- The day with these numbers, if there is one in the years 1 to 9999. -/
def Day.of? (year month day : Int) : Option Day :=
  if 1 ≤ year ∧ year ≤ 9999 ∧ 1 ≤ month ∧ month ≤ 12 ∧ 1 ≤ day ∧
      day ≤ monthLength year.toNat month.toNat then
    some ⟨year.toNat, month.toNat, day.toNat⟩
  else none

/-- The time with these numbers, if there is one. -/
def Time.of? (hour minute second micro : Int) : Option Time :=
  if 0 ≤ hour ∧ hour < 24 ∧ 0 ≤ minute ∧ minute < 60 ∧ 0 ≤ second ∧ second < 60 ∧
      0 ≤ micro ∧ micro < 1000000 then
    some ⟨hour.toNat, minute.toNat, second.toNat, micro.toNat⟩
  else none

/-! ### Reading -/

/-- The integer that characters denote. -/
def int? (cs : List Char) : Option Int := (Numeral.int? (String.ofList cs)).toOption

/-- The characters from one place up to another. -/
def slice (start stop : Nat) (cs : List Char) : List Char := (cs.take stop).drop start

/-- Two digits. -/
def twoDigits? : List Char → Option Nat
  | [a, b] => do return 10 * (← Digits.value? a) + (← Digits.value? b)
  | _ => none

/-- What a text begins with if it begins with a time of day: hour, minute, second and the digits
after a point, of which there are three to six or they do not count. -/
def leadingTime? (cs : List Char) : Option (Nat × Nat × Nat × Nat) :=
  match cs with
  | h :: h' :: ':' :: m :: m' :: ':' :: s :: s' :: rest => do
    let hour ← twoDigits? [h, h']
    let minute ← twoDigits? [m, m']
    let second ← twoDigits? [s, s']
    let digits :=
      match rest with
      | '.' :: rest => (rest.takeWhile Digits.isDigit).take 6
      | _ => []
    return (hour, minute, second, if digits.length < 3 then 0 else Digits.ofChars digits)
  | _ => none

/-- The minutes that a distance from universal time denotes. -/
def offset? (cs : List Char) : Option Int :=
  if cs = ['Z'] then some 0
  else do
    let hours ← int? (slice 1 3 cs)
    let minutes ← int? (slice 4 6 cs)
    let sum := 60 * hours + minutes
    return if cs.head? = some '-' then -sum else sum

/-- Millionths from the digits after a point. More than six digits are scaled down. -/
def micro? (digits : List Char) : Except Flaw (Option Int) :=
  match int? digits with
  | none => .ok none
  | some n =>
    if digits.length ≤ 6 then .ok (some (n * Nat.pow 10 (6 - digits.length)))
    else
      match Binary64.ofInt? n with
      | none => .error .tooLarge
      | some x => .ok (x.mul (.ofDecimal false 1 1 (6 - digits.length))).trunc?

/-- The digits after a point and the distance from universal time behind them. -/
def splitOffset (cs : List Char) : List Char × Option (List Char) :=
  if cs.getLast? = some 'Z' ∨ cs.getLast? = some 'z' then (cs.dropLast, some ['Z'])
  else
    let cut (mark : Char) := (cs.takeWhile (· ≠ mark), some (cs.dropWhile (· ≠ mark)))
    if '+' ∈ cs then cut '+' else if '-' ∈ cs then cut '-' else (cs, none)

/-- What follows the seconds: millionths and the distance from universal time. If a part of it
cannot be read, there is no distance. -/
def tail (cs : List Char) : Except Flaw (Int × Option Int) :=
  match cs with
  | [] => .ok (0, none)
  | '.' :: rest => do
    let (digits, mark) := splitOffset rest
    match mark.map offset? with
    -- a distance that cannot be read takes the millionths with it
    | some none => return (0, none)
    | offset =>
      match ← micro? digits with
      | some micro => return (micro, offset.join)
      | none => return (0, none)
  | cs => .ok (0, offset? cs)

/-- The date that a text denotes, with a time if it is not of the length of a date. -/
def date? (cs : List Char) : Except Flaw (Option Stamp) := do
  let (micro, offset) ← tail (cs.drop 19)
  let number (start stop : Nat) := int? (slice start stop cs)
  let day? : Option Day := do Day.of? (← number 0 4) (← number 5 7) (← number 8 10)
  if '-' ∉ cs.drop 1 then return none
  else if cs.length = 10 then return day?.map .date
  else return do
    let time ← Time.of? (← number 11 13) (← number 14 16) (← number 17 19) micro
    return .both (← day?) time offset

/-! ### Writing -/

/-- A number with zeros in front, up to a width. -/
def padded (width n : Nat) : List Char :=
  let digits := Digits.ofNat n
  List.replicate (width - digits.length) '0' ++ digits

/-- Year, month and day. -/
def Day.text (d : Day) : List Char :=
  padded 4 d.year ++ '-' :: padded 2 d.month ++ '-' :: padded 2 d.day

/-- Hour, minute and second, and millionths if there are any. -/
def Time.text (t : Time) : List Char :=
  padded 2 t.hour ++ ':' :: padded 2 t.minute ++ ':' :: padded 2 t.second ++
    (if t.micro = 0 then [] else '.' :: padded 6 t.micro)

/-- A distance from universal time. None at all is a `Z`. -/
def offsetText (minutes : Int) : List Char :=
  if minutes = 0 then ['Z']
  else
    (if minutes < 0 then '-' else '+') ::
      padded 2 (minutes.natAbs / 60) ++ ':' :: padded 2 (minutes.natAbs % 60)

/-- The text of a stamp. -/
def Stamp.text : Stamp → List Char
  | date d => d.text
  | time t => t.text
  | both d t offset =>
    d.text ++ 'T' :: t.text ++ (match offset with
      | some minutes => offsetText minutes
      | none => [])

/-- Whether a stamp lies less than a day from universal time, so that its distance can be written.
-/
def Stamp.isWritable : Stamp → Bool
  | both _ _ (some minutes) => minutes.natAbs < 1440
  | _ => true

end ContractOps.Toml
