import QueryGate.Calendar.Date
import QueryGate.Word

set_option relaxedAutoImplicit false
set_option autoImplicit false

/-!
# Instants and times of day

The engine counts time in one of four units with 64 bits. Counts are brought to microseconds: a
count too large for 64 bits then stays at the largest, which is beyond every year that dates are
given for, and a finer count loses what is below a microsecond.

## Main definitions

* `QueryGate.TimeUnit` — the units.
* `QueryGate.TimeUnit.micros` — a count in microseconds.
* `QueryGate.Clock`, `QueryGate.Instant` — a time of day, and a date with one.
* `QueryGate.instantText?` — the date and time of a count from the start of 1970.
* `QueryGate.clockText?` — the time of day of a count from midnight.
* `QueryGate.dateText?` — the date of a count of days from the start of 1970.
-/

namespace QueryGate

/-- The units in which the engine counts time. -/
inductive TimeUnit
  | second
  | millisecond
  | microsecond
  | nanosecond
  deriving DecidableEq, Repr

/-- An integer brought into the range of 64 bits. -/
def saturate (n : Int) : Int := max Word.minSigned (min Word.maxSigned n)

/-- A count in microseconds. -/
def TimeUnit.micros (count : Int) : TimeUnit → Int
  | second => saturate (count * 1000000)
  | millisecond => saturate (count * 1000)
  | microsecond => count
  | nanosecond => count.tdiv 1000

/-! ## Times of day -/

/-- The number of seconds in a day. -/
def daySeconds : Nat := 86400

/-- A time of day: whole seconds from midnight, and nanoseconds. -/
structure Clock where
  /-- The seconds. -/
  seconds : Nat
  /-- The nanoseconds. -/
  nanos : Nat
  /-- The seconds are those of a day. -/
  seconds_lt : seconds < daySeconds
  /-- The nanoseconds are those of a second. -/
  nanos_lt : nanos < 1000000000
  deriving DecidableEq, Repr

namespace Clock

/-- A time of day, where there is one. -/
def of? (seconds nanos : Nat) : Option Clock :=
  if h : seconds < daySeconds ∧ nanos < 1000000000 then some ⟨seconds, nanos, h.1, h.2⟩ else none

/-- The fraction of a second, with as many groups of three digits as it needs. -/
def fractionChars (nanos : Nat) : List Char :=
  if nanos = 0 then []
  else if nanos % 1000000 = 0 then '.' :: Date.padded 3 (nanos / 1000000)
  else if nanos % 1000 = 0 then '.' :: Date.padded 6 (nanos / 1000)
  else '.' :: Date.padded 9 nanos

/-- The characters of a time of day. -/
def chars (c : Clock) : List Char :=
  Date.padded 2 (c.seconds / 3600) ++ ':' :: Date.padded 2 (c.seconds / 60 % 60) ++
    ':' :: Date.padded 2 (c.seconds % 60) ++ fractionChars c.nanos

/-- A time of day with colons between its parts. -/
def text (c : Clock) : String := String.ofList c.chars

end Clock

/-! ## Instants -/

/-- A date with a time of day. -/
structure Instant where
  /-- The date. -/
  date : Date
  /-- The time of day. -/
  clock : Clock
  deriving DecidableEq, Repr

namespace Instant

/-- The instant of microseconds from the start of 1970, where dates are given for it. -/
def ofMicros? (micros : Int) : Option Instant := do
  let seconds := micros / 1000000
  let date ← Date.ofDayCount? (seconds / daySeconds)
  let clock ← Clock.of? (seconds % daySeconds).toNat (micros % 1000000 * 1000).toNat
  return ⟨date, clock⟩

/-- The characters of an instant. -/
def chars (i : Instant) : List Char := i.date.chars ++ 'T' :: i.clock.chars

/-- An instant with a letter between the date and the time of day. -/
def text (i : Instant) : String := String.ofList i.chars

end Instant

/-! ## The texts of counts -/

/-- The date and time of a count from the start of 1970, where dates are given for it. -/
def instantText? (unit : TimeUnit) (count : Int) : Option String :=
  (Instant.ofMicros? (unit.micros count)).map Instant.text

/-- The time of day of a count from midnight, where it is one. -/
def clockText? (unit : TimeUnit) (count : Int) : Option String := do
  let micros := unit.micros count
  let seconds ← Word.natural32? (micros / 1000000)
  let clock ← Clock.of? seconds (Word.low32 (micros % 1000000 * 1000))
  return clock.text

/-- The number of the first of January 1970 among the days from the first of January of the year
one. -/
def epochDays : Int := 719163

/-- The date of a count of days from the start of 1970, where dates are given for it. -/
def dateText? (count : Int) : Option String :=
  ((Word.sum32? count epochDays).bind Date.ofYearOne?).map Date.text

end QueryGate
