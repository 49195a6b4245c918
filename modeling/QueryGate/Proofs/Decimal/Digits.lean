import Mathlib.Algebra.Group.Nat.Defs
import Mathlib.Data.List.Basic
import QueryGate.Calendar.Date
import QueryGate.Decimal.Parse

set_option relaxedAutoImplicit false
set_option autoImplicit false

/-!
# Digits read back

The digits of a number have its value, with zeros before them or without.

## Main results

* `QueryGate.Decimal.natural?_toDigits`, `QueryGate.Decimal.natural?_padded` — the digits of a
  number read back.
* `QueryGate.Decimal.length_padded` — numbers that fit are as long as they are padded.
* `QueryGate.Decimal.signed?_of_digits` — digits without a sign read back.
-/

namespace QueryGate.Decimal

/-- The value of digits. -/
lemma digitsValue_eq : ∀ (cs : List Char) (acc : Nat),
    digitsValue acc cs = Nat.ofDigitChars 10 cs acc
  | [], _ => Nat.ofDigitChars_nil.symm
  | c :: cs, acc => by
    rw [Nat.ofDigitChars_cons, Nat.mul_comm]
    exact digitsValue_eq cs _

/-- The characters of a number are digits. -/
lemma isDigit_of_mem_toDigits {n : Nat} {c : Char} (h : c ∈ Nat.toDigits 10 n) :
    c.isDigit = true :=
  Nat.isDigit_of_mem_toDigits (by decide) (by decide) h

/-- The digits of a number read back. -/
lemma natural?_toDigits (n : Nat) : natural? (Nat.toDigits 10 n) = some n := by
  have hempty : (Nat.toDigits 10 n).isEmpty = false := by simp
  have hdigits : (Nat.toDigits 10 n).all Char.isDigit = true :=
    List.all_eq_true.mpr fun _ hc => isDigit_of_mem_toDigits hc
  rw [natural?, hempty, hdigits, digitsValue_eq, Nat.ofDigitChars_ten_toDigits]
  rfl

/-! ## Numbers padded with zeros -/

variable {width n : Nat}

/-- The characters of a padded number are digits. -/
lemma isDigit_of_mem_padded {c : Char} (h : c ∈ Date.padded width n) : c.isDigit = true := by
  rcases List.mem_append.mp h with hzero | hdigit
  · rw [(List.mem_replicate.mp hzero).2]
    rfl
  · exact isDigit_of_mem_toDigits hdigit

/-- A padded number reads back. -/
lemma natural?_padded (width n : Nat) : natural? (Date.padded width n) = some n := by
  have hempty : (Date.padded width n).isEmpty = false := by
    simp [Date.padded, Text.decimal]
  have hdigits : (Date.padded width n).all Char.isDigit = true :=
    List.all_eq_true.mpr fun _ hc => isDigit_of_mem_padded hc
  rw [natural?, hempty, hdigits, digitsValue_eq, Date.padded, Nat.ofDigitChars_append,
    Nat.ofDigitChars_replicate_zero, Nat.mul_zero, Text.decimal, Nat.ofDigitChars_ten_toDigits]
  rfl

/-- A number that fits is as long as it is padded. -/
lemma length_padded (hwidth : 0 < width) (h : n < 10 ^ width) :
    (Date.padded width n).length = width := by
  have hlength := (Nat.length_toDigits_le_iff (by decide) hwidth).mpr h
  rw [Date.padded, Text.decimal, List.length_append, List.length_replicate]
  omega

/-- A number of one digit or two, with two. -/
lemma exists_padded_two (h : n < 100) : ∃ a b, Date.padded 2 n = [a, b] :=
  List.length_eq_two.mp (length_padded (by decide) h)

/-- Digits without a sign read back. -/
lemma signed?_of_digits {cs : List Char} (h : ∀ c ∈ cs, c.isDigit = true) :
    signed? (String.ofList cs) = (natural? cs).map Int.ofNat := by
  rw [signed?, String.toList_ofList]
  split
  · exact absurd (h '+' List.mem_cons_self) (by decide)
  · exact absurd (h '-' List.mem_cons_self) (by decide)
  · rfl

end QueryGate.Decimal
