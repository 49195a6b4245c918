import Mathlib.Data.Int.Init
import Mathlib.Data.List.Basic
import QueryGate.Calendar.Date

set_option relaxedAutoImplicit false
set_option autoImplicit false

/-!
# Days of the calendar

The days are counted by the calendar itself: the first of January 1970 is day zero, and each day is
followed by the next day of its month, the first of the next month, or the first of the next year.
The date that is computed for a day count is the one that this gives.

## Main definitions

* `QueryGate.Date.next` — the day after a date.
* `QueryGate.Date.Counts` — the day counts of dates, told by the calendar.

## Main results

* `QueryGate.Date.dayCount_next` — the day after has the next day count.
* `QueryGate.Date.ofDayCount_dayCount` — a date is computed from its day count.
* `QueryGate.Date.counts_iff` — the date computed for a day count is the one that the calendar has
  for it.
* `QueryGate.Date.isGiven_iff` — the day counts that dates are given for.
-/

namespace QueryGate.Date

variable {d d' : Date} {n : Int}

/-! ## The calendar -/

/-- The day after a date. -/
def next (d : Date) : Date :=
  if d.day < monthLength d.year d.month then { d with day := d.day + 1 }
  else if d.month < 12 then ⟨d.year, d.month + 1, 1⟩
  else ⟨d.year + 1, 1, 1⟩

/-- The day counts of dates, told by the calendar. -/
inductive Counts : Int → Date → Prop
  /-- The first of January 1970 is day zero. -/
  | epoch : Counts 0 ⟨1970, 1, 1⟩
  /-- The day after has the next number. -/
  | next {n : Int} {d : Date} (h : Counts n d) : Counts (n + 1) d.next
  /-- The day before has the number before. -/
  | before {n : Int} {d : Date} (hproper : d.IsProper) (h : Counts (n + 1) d.next) : Counts n d

/-- A month of a date is one of twelve. -/
lemma IsProper.month_cases (h : d.IsProper) :
    d.month = 1 ∨ d.month = 2 ∨ d.month = 3 ∨ d.month = 4 ∨ d.month = 5 ∨ d.month = 6 ∨
      d.month = 7 ∨ d.month = 8 ∨ d.month = 9 ∨ d.month = 10 ∨ d.month = 11 ∨ d.month = 12 := by
  obtain ⟨hlow, hhigh, -, -⟩ := h
  omega

/-- A leap year is one in four, but of the full centuries only one in four. -/
lemma isLeap_iff {year : Int} :
    isLeap year = true ↔ year % 4 = 0 ∧ (year % 100 ≠ 0 ∨ year % 400 = 0) := by
  simp [isLeap]

/-- A month has 28 to 31 days. -/
lemma monthLength_bounds (year month : Int) :
    28 ≤ monthLength year month ∧ monthLength year month ≤ 31 := by
  unfold monthLength
  split_ifs <;> omega

/-- The day after a date is a date. -/
lemma isProper_next (h : d.IsProper) : d.next.IsProper := by
  obtain ⟨hlow, hhigh, hday, hlast⟩ := h
  unfold next
  split_ifs with hinside hmonth
  · exact ⟨hlow, hhigh, by simp only; omega, by simp only; omega⟩
  · have hlength := (monthLength_bounds d.year (d.month + 1)).1
    exact ⟨by simp only; omega, by simp only; omega, by simp only; omega, by simp only; omega⟩
  · have hlength := (monthLength_bounds (d.year + 1) 1).1
    exact ⟨by simp only; omega, by simp only; omega, by simp only; omega, by simp only; omega⟩

/-- Every date is the day after another. -/
lemma exists_next_eq (h : d.IsProper) : ∃ before : Date, before.IsProper ∧ before.next = d := by
  obtain ⟨year, month, day⟩ := d
  obtain ⟨hlow, hhigh, hday, hlast⟩ := h
  simp only at hlow hhigh hday hlast
  by_cases hfirst : day = 1
  · subst hfirst
    by_cases hjanuary : month = 1
    · subst hjanuary
      have hlength : monthLength (year - 1) 12 = 31 := rfl
      refine ⟨⟨year - 1, 12, 31⟩,
        ⟨by simp only; omega, by simp only; omega, by simp only; omega, by simp only; omega⟩, ?_⟩
      simp [next, hlength]
    · have hlength := (monthLength_bounds year (month - 1)).1
      refine ⟨⟨year, month - 1, monthLength year (month - 1)⟩,
        ⟨by simp only; omega, by simp only; omega, by simp only; omega, Int.le_refl _⟩, ?_⟩
      rw [next, if_neg (Int.lt_irrefl _), if_pos (by simp only; omega)]
      simp
  · refine ⟨⟨year, month, day - 1⟩, ⟨hlow, hhigh, by simp only; omega, by simp only; omega⟩, ?_⟩
    rw [next, if_pos (by simp only; omega)]
    simp

/-! ## The count of a date -/

/-- A year that begins in March has the length of the leap years and the common years that end with
it. -/
lemma daysBeforeYear_succ (year : Int) :
    daysBeforeYear (year + 1) = daysBeforeYear year + if isLeap (year + 1) then 366 else 365 := by
  have h4 : (year + 1) / 4 = year / 4 + if (year + 1) % 4 = 0 then 1 else 0 := by omega
  have h100 : (year + 1) / 100 = year / 100 + if (year + 1) % 100 = 0 then 1 else 0 := by omega
  have h400 : (year + 1) / 400 = year / 400 + if (year + 1) % 400 = 0 then 1 else 0 := by omega
  simp only [daysBeforeYear, isLeap_iff, h4, h100, h400]
  split_ifs <;> omega

/-- The days of a month follow one another. -/
lemma dayCount_eq (year month day : Int) :
    dayCount ⟨year, month, day⟩ = dayCount ⟨year, month, 1⟩ + (day - 1) := by
  simp only [dayCount]
  omega

/-- The first of a month stands as many days after the first of the month before as that has. -/
lemma dayCount_month (year : Int) {month : Int} (hlow : 1 ≤ month) (hhigh : month < 12) :
    dayCount ⟨year, month + 1, 1⟩ = dayCount ⟨year, month, 1⟩ + monthLength year month := by
  have hmonth : month = 1 ∨ month = 2 ∨ month = 3 ∨ month = 4 ∨ month = 5 ∨ month = 6 ∨
      month = 7 ∨ month = 8 ∨ month = 9 ∨ month = 10 ∨ month = 11 := by omega
  by_cases hfebruary : month = 2
  · subst hfebruary
    have hyear := daysBeforeYear_succ (year - 1)
    rw [Int.sub_add_cancel] at hyear
    simp only [dayCount, monthLength]
    split_ifs at hyear ⊢ <;> omega
  · -- The other months have the same length in every year.
    rcases hmonth with rfl | rfl | rfl | rfl | rfl | rfl | rfl | rfl | rfl | rfl | rfl <;>
      simp [dayCount, monthLength] at hfebruary ⊢ <;> omega

/-- The first of January stands 31 days after the first of December. -/
lemma dayCount_year (year : Int) : dayCount ⟨year + 1, 1, 1⟩ = dayCount ⟨year, 12, 1⟩ + 31 := by
  simp [dayCount]
  omega

/-- The day after has the next day count. -/
lemma dayCount_next (h : d.IsProper) : d.next.dayCount = d.dayCount + 1 := by
  obtain ⟨year, month, day⟩ := d
  obtain ⟨hlow, hhigh, hday, hlast⟩ := h
  simp only at hlow hhigh hday hlast
  rw [next, dayCount_eq year month day]
  simp only
  split_ifs with hinside hmonth
  · rw [dayCount_eq year month (day + 1)]
    omega
  · rw [dayCount_month year hlow hmonth]
    omega
  · obtain rfl : month = 12 := by omega
    have hlength : monthLength year 12 = 31 := rfl
    rw [dayCount_year]
    omega

/-! ## The date of a count -/

/-- A day of four hundred years, given by its century, its four years, its year and its day, falls
into the year that is computed for it. -/
lemma yearOfEra_eq {c q r t e : Int} (hc : 0 ≤ c ∧ c ≤ 3) (hq : 0 ≤ q ∧ q ≤ 24)
    (hr : 0 ≤ r ∧ r ≤ 3) (ht : 0 ≤ t ∧ t ≤ 365) (hlast : t = 365 → r = 3 ∧ (q = 24 → c = 3))
    (he : e = 36524 * c + 1461 * q + 365 * r + t) :
    0 ≤ e ∧ e < 146097 ∧ (e - e / 1460 + e / 36524 - e / 146096) / 365 = 100 * c + 4 * q + r := by
  have hcentury : e / 36524 - e / 146096 = c := by
    by_cases hinside : 1461 * q + 365 * r + t < 36524
    · have h36524 : e / 36524 = c := by omega
      have h146096 : e / 146096 = 0 := by omega
      omega
    · -- The last day of the four hundred years.
      obtain ⟨rfl, rfl⟩ : t = 365 ∧ q = 24 := by omega
      obtain ⟨rfl, hc3⟩ := hlast rfl
      obtain rfl := hc3 rfl
      omega
  have hyears : (e - e / 1460 + c) / 365 = 100 * c + 4 * q + r := by
    by_cases hinside : 24 * c + q + 365 * r + t < 1460
    · have h1460 : e / 1460 = 25 * c + q := by omega
      rw [h1460]
      omega
    · have h1460 : e / 1460 = 25 * c + q + 1 := by omega
      rw [h1460]
      omega
  refine ⟨by omega, by omega, ?_⟩
  rw [← hyears]
  congr 1
  omega

/-- The year computed for a day of four hundred years, given by its year and its day. -/
lemma yearOfEra {y t : Int} (hy : 0 ≤ y ∧ y < 400) (ht : 0 ≤ t ∧ t ≤ 365)
    (hlast : t = 365 → isLeap (y + 1) = true) :
    let e := 365 * y + y / 4 - y / 100 + t
    0 ≤ e ∧ e < 146097 ∧ (e - e / 1460 + e / 36524 - e / 146096) / 365 = y := by
  intro e
  have hsplit : y = 100 * (y / 100) + 4 * (y % 100 / 4) + y % 4 := by omega
  have he : e = 36524 * (y / 100) + 1461 * (y % 100 / 4) + 365 * (y % 4) + t := by
    simp only [e]
    omega
  have hleap : t = 365 → y % 4 = 3 ∧ (y % 100 / 4 = 24 → y / 100 = 3) := by
    intro h
    have hyear := isLeap_iff.mp (hlast h)
    omega
  have hyear := yearOfEra_eq (c := y / 100) (q := y % 100 / 4) (r := y % 4) (by omega) (by omega)
    (by omega) ht hleap he
  rwa [← hsplit] at hyear

/-- Four hundred years have 146097 days. -/
lemma daysBeforeYear_era (era : Int) {y : Int} (hy : 0 ≤ y ∧ y < 400) :
    daysBeforeYear (400 * era + y) = 146097 * era + (365 * y + y / 4 - y / 100) := by
  simp only [daysBeforeYear]
  omega

/-- The date computed for a day of a year that begins in March. -/
lemma ofDayCount_eq {year t : Int} (ht : 0 ≤ t ∧ t ≤ 365)
    (hlast : t = 365 → isLeap (year + 1) = true) :
    ofDayCount (daysBeforeYear year + t - 719468) =
      let month := (5 * t + 2) / 153
      let shown := if month < 10 then month + 3 else month - 9
      ⟨year + (if shown ≤ 2 then 1 else 0), shown, t - (153 * month + 2) / 5 + 1⟩ := by
  obtain ⟨era, y, hy, rfl⟩ : ∃ era y : Int, (0 ≤ y ∧ y < 400) ∧ year = 400 * era + y :=
    ⟨year / 400, year % 400, by omega, by omega⟩
  have hleap : t = 365 → isLeap (y + 1) = true := by
    intro h
    have hyear := isLeap_iff.mp (hlast h)
    exact isLeap_iff.mpr (by omega)
  obtain ⟨hlow, hhigh, hyear⟩ := yearOfEra hy ht hleap
  rw [daysBeforeYear_era era hy]
  have hdays : 146097 * era + (365 * y + y / 4 - y / 100) + t - 719468 + 719468 =
      146097 * era + (365 * y + y / 4 - y / 100 + t) := by omega
  have hinYear : 365 * y + y / 4 - y / 100 + t - (365 * y + y / 4 - y / 100) = t := by omega
  have hera : (146097 * era + (365 * y + y / 4 - y / 100 + t)) / 146097 = era := by omega
  have hinEra : (146097 * era + (365 * y + y / 4 - y / 100 + t)) % 146097 =
      365 * y + y / 4 - y / 100 + t := by omega
  simp only [ofDayCount, hdays, hera, hinEra, hyear, hinYear, Int.add_comm y]

/-- Where the day of a date stands in the year that begins in March: after the months before, in no
other month than its own, and on the last day of a leap year at most. -/
lemma inYear_bounds {year month day m t : Int} (h : IsProper ⟨year, month, day⟩)
    (hm : m = if month ≤ 2 then month + 9 else month - 3) (ht : t = (153 * m + 2) / 5 + day - 1) :
    (5 * t + 2) / 153 = m ∧ (0 ≤ t ∧ t ≤ 365) ∧
      (t = 365 → month = 2 ∧ isLeap year = true) := by
  have hmonth := h.month_cases
  obtain ⟨-, -, hday, hlast⟩ := h
  simp only at hmonth hday hlast
  rcases hmonth with rfl | rfl | rfl | rfl | rfl | rfl | rfl | rfl | rfl | rfl | rfl | rfl
  case inr.inl =>
    simp only [monthLength, if_pos] at hlast
    cases hleap : isLeap year <;> simp [hleap] at hlast hm ⊢ <;> omega
  all_goals
    simp [monthLength] at hlast hm
    omega

/-- A date is computed from its day count. -/
lemma ofDayCount_dayCount (h : d.IsProper) : ofDayCount d.dayCount = d := by
  obtain ⟨year, month, day⟩ := d
  obtain ⟨m, hm⟩ : ∃ m, m = if month ≤ 2 then month + 9 else month - 3 := ⟨_, rfl⟩
  obtain ⟨y, hy⟩ : ∃ y, y = if month ≤ 2 then year - 1 else year := ⟨_, rfl⟩
  obtain ⟨t, ht⟩ : ∃ t, t = (153 * m + 2) / 5 + day - 1 := ⟨_, rfl⟩
  obtain ⟨hmonth, hrange, hlast⟩ := inYear_bounds h hm ht
  have hcount : dayCount ⟨year, month, day⟩ = daysBeforeYear y + t - 719468 := by
    simp only [dayCount, ← hm, ← hy, ht]
    omega
  have hleap : t = 365 → isLeap (y + 1) = true := by
    intro h365
    obtain ⟨rfl, hleap⟩ := hlast h365
    rw [hy, if_pos (Int.le_refl 2), Int.sub_add_cancel]
    exact hleap
  obtain ⟨hlow, hhigh, -, -⟩ := h
  simp only at hlow hhigh
  rw [hcount, ofDayCount_eq hrange hleap]
  simp only [hmonth]
  have hshown : (if m < 10 then m + 3 else m - 9) = month := by
    rw [hm]
    split_ifs <;> omega
  have hyear : (y + if month ≤ 2 then 1 else 0) = year := by
    rw [hy]
    split_ifs <;> omega
  have hday : t - (153 * m + 2) / 5 + 1 = day := by omega
  rw [hshown, hyear, hday]

/-! ## What the calendar has for a count -/

/-- A date with a count is a date, and the count is computed from it. -/
lemma Counts.proper (h : Counts n d) : d.IsProper ∧ d.dayCount = n := by
  induction h with
  | epoch => exact ⟨by decide, by decide⟩
  | next _ ih => exact ⟨isProper_next ih.1, by rw [dayCount_next ih.1, ih.2]⟩
  | before hproper _ ih =>
    have hcount := ih.2
    rw [dayCount_next hproper] at hcount
    exact ⟨hproper, by omega⟩

/-- The calendar has a date for every count. -/
lemma exists_counts (n : Int) : ∃ d, Counts n d := by
  induction n using Int.induction_on with
  | zero => exact ⟨_, .epoch⟩
  | succ n ih =>
    obtain ⟨d, hd⟩ := ih
    exact ⟨d.next, hd.next⟩
  | pred n ih =>
    obtain ⟨d, hd⟩ := ih
    obtain ⟨before, hproper, hnext⟩ := exists_next_eq hd.proper.1
    refine ⟨before, .before hproper ?_⟩
    rwa [Int.sub_add_cancel, hnext]

/-- **The date computed for a day count is the one that the calendar has for it.** -/
theorem counts_iff : Counts n d ↔ d = ofDayCount n := by
  have heq : ∀ {d}, Counts n d → d = ofDayCount n := by
    intro d h
    obtain ⟨hproper, hcount⟩ := h.proper
    rw [← hcount, ofDayCount_dayCount hproper]
  refine ⟨heq, ?_⟩
  rintro rfl
  obtain ⟨d, hd⟩ := exists_counts n
  exact heq hd ▸ hd

/-! ## The years that dates are given for -/

/-- Whether dates are given for the year of a date. -/
def IsGiven (d : Date) : Prop := firstYear ≤ d.year ∧ d.year ≤ lastYear

/-- Years count up. -/
lemma daysBeforeYear_mono {a b : Int} (h : a ≤ b) : daysBeforeYear a ≤ daysBeforeYear b := by
  simp only [daysBeforeYear]
  omega

/-- A year begins with its first of January, and ends before the next. -/
lemma dayCount_bounds (h : d.IsProper) :
    daysBeforeYear (d.year - 1) + 306 ≤ d.dayCount + 719468 ∧
      d.dayCount + 719468 < daysBeforeYear d.year + 306 := by
  obtain ⟨year, month, day⟩ := d
  obtain ⟨m, hm⟩ : ∃ m, m = if month ≤ 2 then month + 9 else month - 3 := ⟨_, rfl⟩
  obtain ⟨-, hrange, -⟩ := inYear_bounds h hm rfl
  have hyear := daysBeforeYear_succ (year - 1)
  rw [Int.sub_add_cancel] at hyear
  obtain ⟨hlow, hhigh, hday, hlast⟩ := h
  have hlength := (monthLength_bounds year month).2
  simp only at hlow hhigh hday hlast
  simp only [dayCount, ← hm]
  split_ifs at hm hyear ⊢ <;> omega

/-- The day counts that dates are given for, from the first of January of the first year to the
31st of December of the last. -/
lemma Counts.isGiven_iff (h : Counts n d) : d.IsGiven ↔ -96465292 ≤ n ∧ n ≤ 95026236 := by
  obtain ⟨hproper, rfl⟩ := h.proper
  obtain ⟨hlow, hhigh⟩ := dayCount_bounds hproper
  have hfirst : daysBeforeYear (firstYear - 1) + 306 = -96465292 + 719468 := by decide
  have hlast : daysBeforeYear lastYear + 306 = 95026236 + 719469 := by decide
  constructor
  · rintro ⟨hfrom, hto⟩
    have hbefore := daysBeforeYear_mono (Int.sub_le_sub_right hfrom 1)
    have hafter := daysBeforeYear_mono hto
    omega
  · rintro ⟨hfrom, hto⟩
    constructor
    · by_contra hearly
      have hbefore := daysBeforeYear_mono (Int.le_sub_one_of_lt (Int.not_le.mp hearly))
      omega
    · by_contra hlate
      have hafter := daysBeforeYear_mono (Int.le_sub_one_of_lt (Int.not_le.mp hlate))
      omega

end QueryGate.Date
