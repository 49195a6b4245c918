import QueryGate.Engine.Cell
import QueryGate.Proofs.Calendar.Text

set_option relaxedAutoImplicit false
set_option autoImplicit false

/-!
# Dates and times of the engine

A count of time leaves as a text that reads as just that time, to the microsecond, or as nothing.
Counts that are too large for the arithmetic of 64 or of 32 bits lie beyond the years that dates are
given for, so that what they are cut off to is never shown.

## Main definitions

* `QueryGate.TimeUnit.Tells` — nanoseconds that tell a count of a unit.
* `QueryGate.Instant.At` — an instant, told by the calendar.
* `QueryGate.Json.Shows` — a text that reads as a value, or nothing where none is given.

## Main results

* `QueryGate.TimeUnit.micros_cases` — a count in microseconds is told, or cut off.
* `QueryGate.Instant.ofMicros?_eq` — the instant computed for microseconds.
* `QueryGate.Cell.times_exact_or_null` — what counts of time become.
-/

namespace QueryGate

/-! ## Counts -/

namespace TimeUnit

/-- The nanoseconds of a unit. -/
def nanos : TimeUnit → Int
  | second => 1000000000
  | millisecond => 1000000
  | microsecond => 1000
  | nanosecond => 1

/-- Nanoseconds tell a count of a unit: they are less than a microsecond away from it, and nothing
if the unit is a microsecond or more. -/
def Tells (unit : TimeUnit) (count nanos : Int) : Prop :=
  (nanos - count * unit.nanos).natAbs < 1000 ∧ (unit ≠ nanosecond → nanos = count * unit.nanos)

/-- What a count is tells it. -/
lemma tells_self (unit : TimeUnit) (count : Int) : unit.Tells count (count * unit.nanos) :=
  ⟨by simp, fun _ => rfl⟩

/-- A number brought into the range of 64 bits stays as it is, or it is too large or too small. -/
lemma saturate_cases (n : Int) : saturate n = n ∨
    saturate n = Word.maxSigned ∧ Word.maxSigned < n ∨
      saturate n = Word.minSigned ∧ n < Word.minSigned := by
  simp only [saturate, Word.maxSigned, Word.minSigned]
  omega

/-- **A count in microseconds is told, or it is cut off** at the end of 64 bits that it is beyond. -/
lemma micros_cases (unit : TimeUnit) (count : Int) :
    unit.Tells count (unit.micros count * 1000) ∨
      unit.micros count = Word.maxSigned ∧ Word.maxSigned * 1000 < count * unit.nanos ∨
      unit.micros count = Word.minSigned ∧ count * unit.nanos < Word.minSigned * 1000 := by
  cases unit with
  | second =>
    simp only [Tells, micros, nanos]
    rcases saturate_cases (count * 1000000) with h | h | h <;> omega
  | millisecond =>
    simp only [Tells, micros, nanos]
    rcases saturate_cases (count * 1000) with h | h | h <;> omega
  | microsecond => exact .inl (tells_self microsecond count)
  | nanosecond =>
    have hrest := Int.tmod_add_tdiv_mul count 1000
    have hsmall := Int.tmod_lt_of_pos count (b := 1000) (by decide)
    have hsmall' := Int.lt_tmod_of_pos count (b := 1000) (by decide)
    refine .inl ⟨?_, fun h => absurd rfl h⟩
    simp only [micros, nanos]
    omega

end TimeUnit

/-! ## Times of day and instants -/

/-- A time of day stands at nanoseconds from midnight. -/
def Clock.At (nanos : Int) (c : Clock) : Prop := nanos = c.seconds * 1000000000 + c.nanos

namespace Instant

/-- An instant stands at nanoseconds from the start of 1970: its date is the one that the calendar
has for the day, and its time of day is the rest. -/
def At (nanos : Int) (i : Instant) : Prop :=
  ∃ day, Date.Counts day i.date ∧
    nanos = (day * daySeconds + i.clock.seconds) * 1000000000 + i.clock.nanos

variable {nanos micros : Int} {i j : Instant}

/-- A time of day is one of a day, and its parts are of 32 bits. -/
lemma clock_bounds (c : Clock) : c.seconds < 86400 ∧ c.nanos < 1000000000 :=
  ⟨c.seconds_lt, c.nanos_lt⟩

/-- The seconds of a day. -/
lemma cast_daySeconds : (daySeconds : Int) = 86400 := rfl

/-- There is an instant at all nanoseconds, -/
lemma exists_at (nanos : Int) : ∃ i : Instant, i.At nanos := by
  refine ⟨⟨Date.ofDayCount (nanos / 1000000000 / 86400),
    ⟨(nanos / 1000000000 % 86400).toNat, (nanos % 1000000000).toNat, ?_, by omega⟩⟩,
    nanos / 1000000000 / 86400, Date.counts_iff.mpr rfl, ?_⟩
  · rw [daySeconds]
    omega
  · simp only [cast_daySeconds]
    omega

/-- and only one. -/
lemma At.unique (hi : i.At nanos) (hj : j.At nanos) : i = j := by
  obtain ⟨day, hdate, hnanos⟩ := hi
  obtain ⟨day', hdate', hnanos'⟩ := hj
  have hclock := clock_bounds i.clock
  have hclock' := clock_bounds j.clock
  rw [cast_daySeconds] at hnanos hnanos'
  obtain ⟨rfl, hseconds, hn⟩ :
      day = day' ∧ i.clock.seconds = j.clock.seconds ∧ i.clock.nanos = j.clock.nanos := by omega
  rw [Date.counts_iff] at hdate hdate'
  obtain ⟨date, seconds, n, _, _⟩ := i
  obtain ⟨date', seconds', n', _, _⟩ := j
  obtain rfl : date = date' := hdate.trans hdate'.symm
  obtain rfl : seconds = seconds' := hseconds
  obtain rfl : n = n' := hn
  rfl

/-- The nanoseconds that dates are given for. -/
lemma At.isGiven_iff (h : i.At nanos) :
    i.date.IsGiven ↔ -8334601228800000000000 ≤ nanos ∧ nanos < 8210266876800000000000 := by
  obtain ⟨day, hdate, hnanos⟩ := h
  have hclock := clock_bounds i.clock
  rw [cast_daySeconds] at hnanos
  rw [hdate.isGiven_iff]
  omega

/-- **The instant computed for microseconds stands there,** and it is given if its date is. -/
lemma ofMicros?_eq (h : i.At (micros * 1000)) :
    (i.date.IsGiven ∧ ofMicros? micros = some i) ∨
      (¬ i.date.IsGiven ∧ ofMicros? micros = none) := by
  have hseconds : (micros / 1000000 % daySeconds).toNat < daySeconds := by
    rw [cast_daySeconds, daySeconds]
    omega
  have hnanos : (micros % 1000000 * 1000).toNat < 1000000000 := by omega
  obtain rfl : i = ⟨Date.ofDayCount (micros / 1000000 / daySeconds), ⟨_, _, hseconds, hnanos⟩⟩ := by
    refine h.unique ⟨micros / 1000000 / daySeconds, Date.counts_iff.mpr rfl, ?_⟩
    simp only [cast_daySeconds]
    omega
  have hclock : Clock.of? _ _ = some ⟨_, _, hseconds, hnanos⟩ := dif_pos ⟨hseconds, hnanos⟩
  simp only [ofMicros?, Date.ofDayCount?, hclock, Date.IsGiven]
  split_ifs with hgiven
  · exact .inl ⟨hgiven, rfl⟩
  · exact .inr ⟨hgiven, rfl⟩

end Instant

/-! ## Cells -/

/-- A value is shown as a text that reads as it, where it is given, and as nothing otherwise. -/
def Json.Shows {α : Type} (j : Json) (read : String → Option α) (given : Prop) (a : α) : Prop :=
  (given ∧ ∃ text, j = .str text ∧ read text = some a) ∨ (¬ given ∧ j = .null)

namespace Cell

/-- A count from the start of 1970 whose microseconds are beyond the years that dates are given for
is not shown. -/
lemma toJson_timestamp_of_not {unit : TimeUnit} {count : Int}
    (h : ¬(-8334601228800000000000 ≤ unit.micros count * 1000 ∧
      unit.micros count * 1000 < 8210266876800000000000)) :
    (timestamp unit count).toJson = .null := by
  obtain ⟨i, hi⟩ := Instant.exists_at (unit.micros count * 1000)
  rw [← hi.isGiven_iff] at h
  rcases Instant.ofMicros?_eq hi with ⟨hgiven, -⟩ | ⟨-, heq⟩
  · exact absurd hgiven h
  · rw [toJson, instantText?, heq]
    rfl

/-- **A count from the start of 1970 is shown as the instant that it tells,** where dates are given
for that.

**Proof sketch.** Either the microseconds tell the count, and then the instant computed for them is
shown. Or they are cut off to the end of 64 bits; that end and the count beyond it are both out of
the years that dates are given for, and nothing is shown. -/
lemma shows_timestamp (unit : TimeUnit) (count : Int) : ∃ (nanos : Int) (i : Instant),
    unit.Tells count nanos ∧ i.At nanos ∧
      (timestamp unit count).toJson.Shows Instant.read? i.date.IsGiven i := by
  rcases unit.micros_cases count with htells | ⟨hcut, hbeyond⟩ | ⟨hcut, hbeyond⟩
  · obtain ⟨i, hi⟩ := Instant.exists_at (unit.micros count * 1000)
    refine ⟨_, i, htells, hi, ?_⟩
    rcases Instant.ofMicros?_eq hi with ⟨hgiven, heq⟩ | ⟨hgiven, heq⟩
    · obtain ⟨day, hdate, -⟩ := hi
      refine .inl ⟨hgiven, i.text, ?_, Instant.read?_text hdate.proper.1⟩
      rw [toJson, instantText?, heq]
      rfl
    · refine .inr ⟨hgiven, ?_⟩
      rw [toJson, instantText?, heq]
      rfl
  all_goals
    obtain ⟨i, hi⟩ := Instant.exists_at (count * unit.nanos)
    simp only [Word.maxSigned, Word.minSigned] at hcut hbeyond
    refine ⟨_, i, unit.tells_self count, hi, .inr ⟨?_, toJson_timestamp_of_not (by omega)⟩⟩
    rw [hi.isGiven_iff]
    omega

/-- A day count is shown as the date that the calendar has for it, where dates are given for that.
Counts that have no sum of 32 bits with the days before 1970 are beyond that. -/
lemma shows_date (count : Int) : ∃ d : Date, Date.Counts count d ∧
    (date count).toJson.Shows Date.read? d.IsGiven d := by
  have hdate : Date.Counts count (Date.ofDayCount count) := Date.counts_iff.mpr rfl
  have hgiven := hdate.isGiven_iff
  refine ⟨_, hdate, ?_⟩
  rw [toJson, dateText?, Word.sum32?]
  split_ifs with hfits
  · have hone : Date.dayCount ⟨1, 1, 1⟩ + (count + epochDays - 1) = count := by
      have hfirst : Date.dayCount ⟨1, 1, 1⟩ = 1 - epochDays := by decide
      omega
    simp only [Option.bind_some, Date.ofYearOne?, hone, Date.ofDayCount?]
    split_ifs with hyear
    · exact .inl ⟨hyear, _, rfl, Date.read?_text hdate.proper.1⟩
    · exact .inr ⟨hyear, rfl⟩
  · refine .inr ⟨?_, rfl⟩
    rw [hgiven]
    simp only [epochDays] at hfits
    omega

/-- Microseconds of a day are written as the time of day that they are. -/
lemma clockText?_of_day {unit : TimeUnit} {count : Int} (hlow : 0 ≤ unit.micros count)
    (hhigh : unit.micros count < 86400000000) :
    ∃ c : Clock, c.At (unit.micros count * 1000) ∧ clockText? unit count = some c.text := by
  have hseconds : (unit.micros count / 1000000).toNat < daySeconds := by
    rw [daySeconds]
    omega
  have hlow32 : Word.low32 (unit.micros count % 1000000 * 1000) =
      (unit.micros count % 1000000 * 1000).toNat := by
    rw [Word.low32]
    omega
  have hnanos : (unit.micros count % 1000000 * 1000).toNat < 1000000000 := by omega
  have hclock : Clock.of? _ _ = some ⟨_, _, hseconds, hnanos⟩ := dif_pos ⟨hseconds, hnanos⟩
  refine ⟨⟨_, _, hseconds, hnanos⟩, ?_, ?_⟩
  · simp only [Clock.At]
    omega
  · have hword : Word.natural32? (unit.micros count / 1000000) =
        some (unit.micros count / 1000000).toNat := if_pos (by omega)
    simp only [clockText?, hword, hlow32, Option.bind_eq_bind, Option.bind_some, hclock]
    rfl

/-- Other microseconds are not written, not even those that 32 bits cannot hold. -/
lemma clockText?_of_not {unit : TimeUnit} {count : Int}
    (h : ¬(0 ≤ unit.micros count ∧ unit.micros count < 86400000000)) :
    clockText? unit count = none := by
  rw [clockText?]
  cases hword : Word.natural32? (unit.micros count / 1000000) with
  | none => rfl
  | some seconds =>
    rw [Word.natural32?] at hword
    split_ifs at hword with hrange
    obtain rfl := Option.some.inj hword
    have hnone : ∀ nanos, Clock.of? (unit.micros count / 1000000).toNat nanos = none := by
      refine fun nanos => dif_neg fun hday => ?_
      have hseconds := hday.1
      rw [daySeconds] at hseconds
      omega
    simp only [Option.bind_eq_bind, Option.bind_some, hnone, Option.bind_none]

/-- No time of day stands at nanoseconds that are not of a day. -/
lemma not_at_of_not {nanos : Int} (h : ¬(0 ≤ nanos ∧ nanos < 86400000000000)) (c : Clock) :
    ¬ c.At nanos := by
  have hclock := Instant.clock_bounds c
  simp only [Clock.At]
  omega

/-- **A count from midnight is shown as the time of day that it tells,** where there is one. -/
lemma shows_time (unit : TimeUnit) (count : Int) : ∃ nanos, unit.Tells count nanos ∧
    ((∃ c : Clock, c.At nanos ∧ (time unit count).toJson.Shows Clock.read? True c) ∨
      (∀ c : Clock, ¬ c.At nanos) ∧ (time unit count).toJson = .null) := by
  have hnull : ¬(0 ≤ unit.micros count ∧ unit.micros count < 86400000000) →
      (time unit count).toJson = .null := by
    intro h
    rw [toJson, clockText?_of_not h]
    rfl
  rcases unit.micros_cases count with htells | ⟨hcut, hbeyond⟩ | ⟨hcut, hbeyond⟩
  · refine ⟨_, htells, ?_⟩
    by_cases hday : 0 ≤ unit.micros count ∧ unit.micros count < 86400000000
    · obtain ⟨c, hc, htext⟩ := clockText?_of_day hday.1 hday.2
      refine .inl ⟨c, hc, .inl ⟨trivial, c.text, ?_, c.read?_text⟩⟩
      rw [toJson, htext]
      rfl
    · exact .inr ⟨not_at_of_not (by omega), hnull hday⟩
  all_goals
    simp only [Word.maxSigned, Word.minSigned] at hcut hbeyond
    exact ⟨_, unit.tells_self count, .inr ⟨not_at_of_not (by omega), hnull (by omega)⟩⟩

/-- **Counts of time become exactly what they are, or nothing.** For every unit and every count, a
count from the start of 1970 becomes a text that reads as an instant which the calendar has less
than a microsecond away, and just there if the unit is a microsecond or more; or it becomes nothing,
if the year of that instant is not one that dates are given for. Every day count becomes a text that
reads as the date that the calendar has for it, or nothing if dates are not given for its year. A
count from midnight becomes a text that reads as a time of day less than a microsecond away, or
nothing if no time of day is there.

**Proof sketch.** A count is turned into microseconds, which either tell it or are cut off to the
end of 64 bits; the end is beyond the years that dates are given for, as is the count
(`TimeUnit.micros_cases`). The day and the time of day of a count of microseconds are those of the
calendar, which counts days one by one (`Date.counts_iff`), and the text written for them is read
back as them (`shows_timestamp`, `shows_date`, `shows_time`). -/
theorem times_exact_or_null :
    (∀ (unit : TimeUnit) (count : Int), ∃ (nanos : Int) (i : Instant),
      unit.Tells count nanos ∧ i.At nanos ∧
        (timestamp unit count).toJson.Shows Instant.read? i.date.IsGiven i) ∧
      (∀ count : Int, ∃ d : Date, Date.Counts count d ∧
        (date count).toJson.Shows Date.read? d.IsGiven d) ∧
      ∀ (unit : TimeUnit) (count : Int), ∃ nanos, unit.Tells count nanos ∧
        ((∃ c : Clock, c.At nanos ∧ (time unit count).toJson.Shows Clock.read? True c) ∨
          (∀ c : Clock, ¬ c.At nanos) ∧ (time unit count).toJson = .null) :=
  ⟨shows_timestamp, shows_date, shows_time⟩

/-- The millisecond before 1970, and the last second that 64 bits count. -/
example :
    (timestamp .millisecond (-1)).toJson = .str "1969-12-31T23:59:59.999" ∧
      (timestamp .second 9223372036854775807).toJson = .null :=
  ⟨rfl, rfl⟩

end Cell

end QueryGate
