import QueryGate.Text.Split

set_option relaxedAutoImplicit false
set_option autoImplicit false

/-!
# Dates

Dates of the Gregorian calendar, carried on before its introduction and before the year one, which
the year zero precedes. A date is known by its day count from the first of January 1970.

## Main definitions

* `QueryGate.Date` — a year, a month and a day of the month.
* `QueryGate.Date.dayCount` — the day count of a date.
* `QueryGate.Date.ofDayCount` — the date of a day count.
* `QueryGate.Date.text` — a date with hyphens between its parts.
-/

namespace QueryGate

/-- A year, a month from 1 on, and a day of the month from 1 on. -/
structure Date where
  /-- The year. -/
  year : Int
  /-- The month. -/
  month : Int
  /-- The day of the month. -/
  day : Int
  deriving DecidableEq, Repr

namespace Date

/-- Whether a year has a 29th of February. -/
def isLeap (year : Int) : Bool := year % 4 = 0 && (year % 100 ≠ 0 || year % 400 = 0)

/-- The number of days in a month. -/
def monthLength (year month : Int) : Int :=
  if month = 2 then (if isLeap year then 29 else 28)
  else if month = 4 ∨ month = 6 ∨ month = 9 ∨ month = 11 then 30
  else 31

/-- Whether the month and the day of a date are in range. -/
def IsProper (d : Date) : Prop :=
  1 ≤ d.month ∧ d.month ≤ 12 ∧ 1 ≤ d.day ∧ d.day ≤ monthLength d.year d.month

instance (d : Date) : Decidable d.IsProper := inferInstanceAs (Decidable (_ ∧ _))

/-- The years before `year`, counted from the first of March of the year zero, in days. -/
def daysBeforeYear (year : Int) : Int := 365 * year + year / 4 - year / 100 + year / 400

/-- The day count of a date. Years are taken to begin in March, so that a 29th of February is the
last day of its year. -/
def dayCount (d : Date) : Int :=
  let year := if d.month ≤ 2 then d.year - 1 else d.year
  let month := if d.month ≤ 2 then d.month + 9 else d.month - 3
  daysBeforeYear year + (153 * month + 2) / 5 + d.day - 1 - 719468

/-- The date of a day count. Four hundred years have 146097 days. -/
def ofDayCount (count : Int) : Date :=
  let days := count + 719468
  let era := days / 146097
  let inEra := days % 146097
  let year := (inEra - inEra / 1460 + inEra / 36524 - inEra / 146096) / 365
  let inYear := inEra - (365 * year + year / 4 - year / 100)
  let month := (5 * inYear + 2) / 153
  let day := inYear - (153 * month + 2) / 5 + 1
  let shown := if month < 10 then month + 3 else month - 9
  ⟨year + 400 * era + (if shown ≤ 2 then 1 else 0), shown, day⟩

/-- The first and the last year that dates are given for. -/
def firstYear : Int := -262143

/-- The last year that dates are given for. -/
def lastYear : Int := 262142

/-- The date of a day count, where its year is one that dates are given for. -/
def ofDayCount? (count : Int) : Option Date :=
  let d := ofDayCount count
  if firstYear ≤ d.year ∧ d.year ≤ lastYear then some d else none

/-- The date of a day that is counted from the first of January of the year one, which is day one,
where its year is one that dates are given for. -/
def ofYearOne? (count : Int) : Option Date := ofDayCount? (dayCount ⟨1, 1, 1⟩ + (count - 1))

/-- The digits of a number with zeros before them up to a width. -/
def padded (width n : Nat) : List Char :=
  let digits := Text.decimal n
  List.replicate (width - digits.length) '0' ++ digits

/-- A year. Years of more than four digits and years before zero carry their sign. -/
def yearChars (year : Int) : List Char :=
  if year < 0 then '-' :: padded 4 year.natAbs
  else if 9999 < year then '+' :: Text.decimal year.natAbs
  else padded 4 year.natAbs

/-- The characters of a date. -/
def chars (d : Date) : List Char :=
  yearChars d.year ++ '-' :: padded 2 d.month.natAbs ++ '-' :: padded 2 d.day.natAbs

/-- A date with hyphens between its parts. -/
def text (d : Date) : String := String.ofList d.chars

end Date

end QueryGate
