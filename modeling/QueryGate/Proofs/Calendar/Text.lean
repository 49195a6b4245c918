import Mathlib.Algebra.Group.Nat.Defs
import Mathlib.Data.List.Basic
import QueryGate.Calendar.Instant
import QueryGate.Proofs.Calendar.Day
import QueryGate.Proofs.Decimal.Digits

set_option relaxedAutoImplicit false
set_option autoImplicit false

/-!
# Dates and times read back

What dates, times of day and instants are written as reads back as what they are, so that a text
stands for one of them only. A date is a year with its sign and two digits each for the month and
the day; a time of day has two digits each for the hours, the minutes and the seconds, and the
digits of a fraction.

## Main definitions

* `QueryGate.Date.read?`, `QueryGate.Clock.read?`, `QueryGate.Instant.read?` — the readers.

## Main results

* `QueryGate.Date.read?_text`, `QueryGate.Clock.read?_text`, `QueryGate.Instant.read?_text` — what is
  written reads back.
-/

namespace QueryGate

open Decimal

/-! ## Dates -/

namespace Date

/-- The date that characters stand for. -/
def ofChars? (cs : List Char) : Option Date :=
  match cs.reverse with
  | d₀ :: d₁ :: '-' :: m₀ :: m₁ :: '-' :: year => do
    let year ← signed? (String.ofList year.reverse)
    let month ← natural? [m₁, m₀]
    let day ← natural? [d₁, d₀]
    return ⟨year, month, day⟩
  | _ => none

/-- A year reads back. -/
lemma signed?_yearChars (year : Int) : signed? (String.ofList (yearChars year)) = some year := by
  unfold yearChars
  split_ifs with hnegative hlong
  · simp only [signed?, String.toList_ofList, natural?_padded]
    exact congrArg some (by dsimp only; omega)
  · simp only [signed?, String.toList_ofList, Text.decimal, natural?_toDigits]
    exact congrArg some (by simp; omega)
  · rw [signed?_of_digits fun _ hc => isDigit_of_mem_padded hc, natural?_padded]
    exact congrArg some (by simp; omega)

/-- A date reads back. -/
lemma ofChars?_chars {d : Date} (h : d.IsProper) : ofChars? d.chars = some d := by
  obtain ⟨year, month, day⟩ := d
  have hlength := (monthLength_bounds year month).2
  obtain ⟨hlow, hhigh, hday, hlast⟩ := h
  simp only at hlow hhigh hday hlast
  have hmonth := natural?_padded 2 month.natAbs
  have hday := natural?_padded 2 day.natAbs
  obtain ⟨m₁, m₀, hm⟩ := exists_padded_two (n := month.natAbs) (by omega)
  obtain ⟨d₁, d₀, hd⟩ := exists_padded_two (n := day.natAbs) (by omega)
  rw [hm] at hmonth
  rw [hd] at hday
  have hreverse : (Date.chars ⟨year, month, day⟩).reverse =
      d₀ :: d₁ :: '-' :: m₀ :: m₁ :: '-' :: (yearChars year).reverse := by
    simp [chars, hm, hd]
  simp only [ofChars?, hreverse, List.reverse_reverse, signed?_yearChars, hmonth, hday]
  simp
  omega

/-- The date that a text stands for. -/
def read? (s : String) : Option Date := ofChars? s.toList

lemma read?_text {d : Date} (h : d.IsProper) : read? d.text = some d := by
  rw [read?, text, String.toList_ofList, ofChars?_chars h]

end Date

/-! ## Times of day -/

namespace Clock

/-- The nanoseconds that the characters behind the seconds stand for. -/
def readFraction? : List Char → Option Nat
  | [] => some 0
  | '.' :: digits =>
    if digits.length ≤ 9 then (natural? digits).map (· * 10 ^ (9 - digits.length)) else none
  | _ => none

/-- The time of day that characters stand for. -/
def ofChars? : List Char → Option Clock
  | h₁ :: h₀ :: ':' :: m₁ :: m₀ :: ':' :: s₁ :: s₀ :: fraction => do
    let hours ← natural? [h₁, h₀]
    let minutes ← natural? [m₁, m₀]
    let seconds ← natural? [s₁, s₀]
    let nanos ← readFraction? fraction
    if minutes < 60 ∧ seconds < 60 then of? (hours * 3600 + minutes * 60 + seconds) nanos else none
  | _ => none

/-- A fraction reads back. -/
lemma readFraction?_fractionChars {nanos : Nat} (h : nanos < 1000000000) :
    readFraction? (fractionChars nanos) = some nanos := by
  unfold fractionChars
  split_ifs with hnone hmilli hmicro
  · rw [hnone]
    rfl
  · have hlength : (Date.padded 3 (nanos / 1000000)).length = 3 :=
      length_padded (by decide) (by omega)
    simp only [readFraction?, hlength, natural?_padded]
    exact congrArg some (by simp; omega)
  · have hlength : (Date.padded 6 (nanos / 1000)).length = 6 :=
      length_padded (by decide) (by omega)
    simp only [readFraction?, hlength, natural?_padded]
    exact congrArg some (by simp; omega)
  · have hlength : (Date.padded 9 nanos).length = 9 := length_padded (by decide) (by omega)
    simp only [readFraction?, hlength, natural?_padded]
    exact congrArg some (by simp)

/-- A time of day reads back. -/
lemma ofChars?_chars (c : Clock) : ofChars? c.chars = some c := by
  obtain ⟨seconds, nanos, hseconds, hnanos⟩ := c
  simp only [daySeconds] at hseconds
  have hhours := natural?_padded 2 (seconds / 3600)
  have hminutes := natural?_padded 2 (seconds / 60 % 60)
  have hsecs := natural?_padded 2 (seconds % 60)
  obtain ⟨h₁, h₀, hh⟩ := exists_padded_two (n := seconds / 3600) (by omega)
  obtain ⟨m₁, m₀, hm⟩ := exists_padded_two (n := seconds / 60 % 60) (by omega)
  obtain ⟨s₁, s₀, hs⟩ := exists_padded_two (n := seconds % 60) (by omega)
  rw [hh] at hhours
  rw [hm] at hminutes
  rw [hs] at hsecs
  have htotal : seconds / 3600 * 3600 + seconds / 60 % 60 * 60 + seconds % 60 = seconds := by omega
  have hparts : seconds / 60 % 60 < 60 ∧ seconds % 60 < 60 := by omega
  simp only [chars, hh, hm, hs, List.cons_append, List.nil_append, ofChars?, hhours, hminutes, hsecs,
    readFraction?_fractionChars hnanos]
  simp [hparts, htotal, of?, daySeconds, hseconds, hnanos]

/-- The time of day that a text stands for. -/
def read? (s : String) : Option Clock := ofChars? s.toList

lemma read?_text (c : Clock) : read? c.text = some c := by
  rw [read?, text, String.toList_ofList, ofChars?_chars]

end Clock

/-! ## Instants -/

namespace Instant

/-- The instant that a text stands for. -/
def read? (s : String) : Option Instant :=
  match s.toList.dropWhile (· != 'T') with
  | 'T' :: clock => do
    let date ← Date.ofChars? (s.toList.takeWhile (· != 'T'))
    let clock ← Clock.ofChars? clock
    return ⟨date, clock⟩
  | _ => none

/-- A date has no letter in it. -/
lemma ne_letter_of_mem_chars (d : Date) : ∀ c ∈ d.chars, (c != 'T') = true := by
  have hdigit : ∀ {c : Char}, c.isDigit = true → (c != 'T') = true := by
    intro c h
    rw [bne_iff_ne]
    rintro rfl
    exact absurd h (by decide)
  have hyear : ∀ c ∈ Date.yearChars d.year, (c != 'T') = true := by
    intro c hc
    unfold Date.yearChars at hc
    split_ifs at hc
    · rcases List.mem_cons.mp hc with rfl | hc
      · rfl
      · exact hdigit (isDigit_of_mem_padded hc)
    · rcases List.mem_cons.mp hc with rfl | hc
      · rfl
      · exact hdigit (isDigit_of_mem_toDigits hc)
    · exact hdigit (isDigit_of_mem_padded hc)
  intro c hc
  simp only [Date.chars, List.mem_append, List.mem_cons] at hc
  rcases hc with (hc | rfl | hc) | rfl | hc
  · exact hyear c hc
  · rfl
  · exact hdigit (isDigit_of_mem_padded hc)
  · rfl
  · exact hdigit (isDigit_of_mem_padded hc)

/-- An instant reads back. -/
lemma read?_text {i : Instant} (h : i.date.IsProper) : read? i.text = some i := by
  have hdate := ne_letter_of_mem_chars i.date
  have hbefore : i.chars.takeWhile (· != 'T') = i.date.chars := by
    rw [chars, List.takeWhile_append_of_pos hdate]
    simp
  have hbehind : i.chars.dropWhile (· != 'T') = 'T' :: i.clock.chars := by
    rw [chars, List.dropWhile_append_of_pos hdate]
    simp
  rw [read?, text, String.toList_ofList, hbefore, hbehind]
  simp [Date.ofChars?_chars h, Clock.ofChars?_chars]

end Instant

end QueryGate
