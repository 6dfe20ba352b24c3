/-
  File:      JobKeeper/Time.lean
  Subject:   Instants, calendar times in UTC, and their two written forms.

  A second may have a fraction of up to two whole seconds: from 10^9 nanoseconds on it stands for
  a leap second and is written as second 60.
-/
namespace JobKeeper

/-! ## 1. Instants and calendar times -/

/-- A point in time: seconds since 1970-01-01 in UTC, and nanoseconds. -/
structure Instant where
  seconds : Int
  nanoseconds : Nat := 0
  deriving DecidableEq, Repr

/-- A time of the proleptic Gregorian calendar. -/
structure DateTime where
  year : Int
  month : Nat
  day : Nat
  hour : Nat
  minute : Nat
  second : Nat
  nanosecond : Nat := 0
  deriving DecidableEq, Repr

/-- The instant so many milliseconds after 1970-01-01. -/
def Instant.ofMilliseconds (ms : Int) : Instant :=
  ⟨ms.fdiv 1000, (ms.fmod 1000).toNat * 1000000⟩

/-- Year, month and day of a day counted from 1970-01-01. Days are counted from a first of March
    at the start of an era of 400 years, so that the leap day is the last day of its year. -/
def civilOfDays (days : Int) : Int × Nat × Nat :=
  let z := days + 719468
  let era := z.fdiv 146097
  let dayOfEra := (z - era * 146097).toNat
  let yearOfEra :=
    (dayOfEra - dayOfEra / 1460 + dayOfEra / 36524 - dayOfEra / 146096) / 365
  let dayOfYear := dayOfEra - (365 * yearOfEra + yearOfEra / 4 - yearOfEra / 100)
  let shifted := (5 * dayOfYear + 2) / 153
  let day := dayOfYear - (153 * shifted + 2) / 5 + 1
  let month := if shifted < 10 then shifted + 3 else shifted - 9
  ((yearOfEra : Int) + era * 400 + (if month ≤ 2 then 1 else 0), month, day)

/-- The calendar time of an instant, in UTC. -/
def Instant.toDateTime (t : Instant) : DateTime :=
  let (year, month, day) := civilOfDays (t.seconds.fdiv 86400)
  let ofDay := (t.seconds.fmod 86400).toNat
  { year, month, day, hour := ofDay / 3600, minute := ofDay / 60 % 60, second := ofDay % 60,
    nanosecond := t.nanoseconds }

/-! ## 2. Written forms -/

namespace DateTime

/-- A number with zeros in front up to the width. -/
def padded (width n : Nat) : String :=
  let digits := toString n
  String.ofList (List.replicate (width - digits.length) '0') ++ digits

/-- A year: four digits, with a sign outside of 0 to 9999. -/
def yearText (year : Int) : String :=
  if year < 0 then "-" ++ padded 4 year.natAbs
  else if 9999 < year then "+" ++ padded 4 year.natAbs
  else padded 4 year.natAbs

/-- The date. -/
def dateText (t : DateTime) : String :=
  yearText t.year ++ "-" ++ padded 2 t.month ++ "-" ++ padded 2 t.day

/-- The time of the day to the second. -/
def clockText (t : DateTime) : String :=
  padded 2 t.hour ++ ":" ++ padded 2 t.minute ++ ":"
    ++ padded 2 (t.second + t.nanosecond / 1000000000)

/-- Date and time to the second: `2024-03-09 14:05:07`. -/
def text (t : DateTime) : String := t.dateText ++ " " ++ t.clockText

/-- The fraction of a second in as many digits as it needs, out of none, three, six and nine. -/
def fractionText (nanosecond : Nat) : String :=
  let n := nanosecond % 1000000000
  if n = 0 then ""
  else if n % 1000000 = 0 then "." ++ padded 3 (n / 1000000)
  else if n % 1000 = 0 then "." ++ padded 6 (n / 1000)
  else "." ++ padded 9 n

end DateTime

/-- An instant for machines: `2024-03-09T14:05:07.005Z`. -/
def Instant.text (t : Instant) : String :=
  let d := t.toDateTime
  d.dateText ++ "T" ++ d.clockText ++ DateTime.fractionText d.nanosecond ++ "Z"

end JobKeeper
