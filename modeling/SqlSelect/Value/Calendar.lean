import SqlSelect.Number.Integer

/-!
Dates and times of the proleptic Gregorian calendar and their text: `2024-02-29` and
`2024-02-29 23:59:59.999`. A time with an offset is written as the same instant at offset zero.
-/

set_option autoImplicit false
set_option relaxedAutoImplicit false

namespace SqlSelect

structure Date where
  year : Int
  month : Nat
  day : Nat
deriving DecidableEq

/-- A date and a time of day. A leap second has a billion nanoseconds or more. -/
structure DateTime where
  date : Date
  hour : Nat
  minute : Nat
  second : Nat
  nanosecond : Nat
deriving DecidableEq

namespace Date

/-- Four digits for the years 0 to 9999; any other year has a sign and at least four digits. -/
def yearText (year : Int) : Text :=
  if 0 ≤ year ∧ year ≤ 9999 then Text.padded 4 year.natAbs
  else (if year < 0 then '-' else '+') :: Text.padded 4 year.natAbs

def text (date : Date) : Text :=
  yearText date.year ++ '-' :: Text.padded 2 date.month ++ '-' :: Text.padded 2 date.day

/-- Days from 0000-03-01 to a date. Years that begin in March have their leap day at the end. -/
def dayNumber (date : Date) : Int :=
  let year := if date.month ≤ 2 then date.year - 1 else date.year
  let monthFromMarch : Int := if date.month ≤ 2 then date.month + 9 else date.month - 3
  365 * year + year / 4 - year / 100 + year / 400 + (153 * monthFromMarch + 2) / 5 + date.day - 1

def ofDayNumber (days : Int) : Date :=
  let era := days / 146097
  let dayOfEra := days % 146097
  let yearOfEra := (dayOfEra - dayOfEra / 1460 + dayOfEra / 36524 - dayOfEra / 146096) / 365
  let dayOfYear := dayOfEra - (365 * yearOfEra + yearOfEra / 4 - yearOfEra / 100)
  let monthFromMarch := (5 * dayOfYear + 2) / 153
  let month := if monthFromMarch < 10 then monthFromMarch + 3 else monthFromMarch - 9
  { year := 400 * era + yearOfEra + (if month ≤ 2 then 1 else 0)
    month := month.toNat
    day := (dayOfYear - (153 * monthFromMarch + 2) / 5 + 1).toNat }

end Date

namespace DateTime

/-- The same instant at offset zero, for a local time that is `offset` seconds ahead. -/
def toUtc (time : DateTime) (offset : Int) : DateTime :=
  let seconds : Int := 3600 * time.hour + 60 * time.minute + time.second - offset
  let ofDay := (seconds % 86400).toNat
  { date := Date.ofDayNumber (time.date.dayNumber + seconds / 86400)
    hour := ofDay / 3600
    minute := ofDay / 60 % 60
    second := ofDay % 60
    nanosecond := time.nanosecond }

def text (time : DateTime) : Text :=
  let second := time.second + time.nanosecond / 1000000000
  let millisecond := time.nanosecond % 1000000000 / 1000000
  time.date.text ++ ' ' :: Text.padded 2 time.hour ++ ':' :: Text.padded 2 time.minute ++
    ':' :: Text.padded 2 second ++ '.' :: Text.padded 3 millisecond

end DateTime

end SqlSelect
