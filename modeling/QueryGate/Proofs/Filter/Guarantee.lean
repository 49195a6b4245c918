import QueryGate.Proofs.Decimal.Length
import QueryGate.Proofs.Filter.Grammar
import QueryGate.Proofs.Json.Reading

set_option relaxedAutoImplicit false
set_option autoImplicit false

/-!
# What filters hold

A filter is read from any value whatever, and what is read keeps the ceilings on values all the
same: the value is checked before it is read, and so is the operand of every operator. A number
that is looked for inside a text is written out unchecked, but it is short, and it has none of the
characters that might end a literal.

## Main definitions

* `QueryGate.Literal.Sound`, `QueryGate.Condition.Sound`, `QueryGate.ColumnFilter.Sound` — literals,
  conditions and filters within the ceilings on values.

## Main results

* `QueryGate.Literal.Sound.display` — a sound literal is written out as a harmless text.
* `QueryGate.ColumnFilter.sound_of_ofJson` — every filter that is read is sound.
-/

namespace QueryGate

open Outcome

/-! ## Texts -/

/-- The text of a number or a truth value, if it is short. -/
lemma Json.BareText.harmless {s : String} (h : Json.BareText s.toList)
    (hshort : s.toList.length ≤ 500) : Harmless s := by
  refine ⟨hshort, fun c hc => ?_⟩
  have hbare := h c hc
  refine ⟨?_, ?_, ?_, ?_⟩ <;> rintro rfl <;> exact absurd hbare (by decide)

/-! ## Numbers written out -/

/-- An integer is written as a sign and the digits behind it. -/
lemma toList_toString_int (n : Int) :
    (toString n).toList = Decimal.signOf (decide (n < 0)) ++ Decimal.digitsOf n.natAbs := by
  have hdigits : ∀ m : Nat, (toString m).toList = Decimal.digitsOf m := fun m => by
    rw [Nat.toString_eq_repr, Nat.toList_repr, Decimal.digitsOf]
  cases n with
  | ofNat m =>
    have hsign : decide (Int.ofNat m < 0) = false := by simp
    rw [hsign]
    exact hdigits m
  | negSucc m =>
    have hsign : decide (Int.negSucc m < 0) = true := by simp
    rw [hsign]
    change ("-" ++ toString (m + 1)).toList = ['-'] ++ Decimal.digitsOf (m + 1)
    rw [String.toList_append, hdigits]
    rfl

/-- An integer is written in bare characters. -/
lemma Json.bareText_toString (n : Int) : Json.BareText (toString n).toList := by
  rw [toList_toString_int]
  exact (BareText.sign _).append (BareText.digits _)

/-- A double is written in bare characters. -/
lemma Json.bareText_plain (x : Float) : Json.BareText (Decimal.plain x).toList := by
  unfold Decimal.plain
  cases Decimal.read x with
  | undefined => decide
  | infinite negative =>
    rw [String.toList_ofList]
    exact (BareText.sign negative).append (by decide)
  | finite negative value =>
    rw [String.toList_ofList]
    exact (BareText.sign negative).append (BareText.positional _ _)

/-- An integer of 64 bits has no more than twenty characters. -/
lemma length_toString_le {n : Int} (h : Word.isSigned n = true) :
    (toString n).toList.length ≤ 20 := by
  obtain ⟨hlow, hhigh⟩ : Word.minSigned ≤ n ∧ n ≤ Word.maxSigned := by
    simpa [Word.isSigned] using h
  unfold Word.minSigned at hlow
  unfold Word.maxSigned at hhigh
  have hdigits : (Decimal.digitsOf n.natAbs).length ≤ 19 :=
    (Nat.length_toDigits_le_iff (by decide) (by decide)).mpr (by omega)
  rw [toList_toString_int, List.length_append]
  exact Nat.add_le_add (Decimal.length_signOf_le _) hdigits

/-! ## Literals -/

namespace Literal

/-- Literals within the ceilings on values. -/
def Sound : Literal → Prop
  | text s => Harmless s
  | integer n => Word.isSigned n = true
  | float _ => True
  | bool _ => True

/-- A value is written for a sound literal. -/
lemma Written.sound {j : Json} {l : Literal} : Written j l → l.Sound
  | text h => h
  | integer h => h
  | bool _ | large _ | float _ => trivial

/-- **A sound literal is written out as a harmless text**, a text as itself. -/
lemma Sound.display : ∀ {l : Literal}, l.Sound → Harmless l.display
  | text _, h => h
  | bool true, _ => Json.BareText.harmless (by decide) (by decide)
  | bool false, _ => Json.BareText.harmless (by decide) (by decide)
  | integer n, h => Json.BareText.harmless (Json.bareText_toString n)
    ((length_toString_le h).trans (by decide))
  | float x, _ => Json.BareText.harmless (Json.bareText_plain x)
    ((Decimal.length_plain_le x).trans (by decide))

end Literal

/-! ## Conditions -/

namespace Condition

/-- Conditions within the ceilings on values. -/
def Sound : Condition → Prop
  | scalar value => value.Sound
  | isNull => True
  | inSet values => 1 ≤ values.length ∧ values.length ≤ 100 ∧ ∀ l ∈ values, l.Sound
  | between low high => low.Sound ∧ high.Sound
  | compare _ value => value.Sound
  | contains part => Harmless part

/-- Choices are written for sound literals. -/
lemma ChoicesWritten.sound {items : List Json} {values : List Literal}
    (h : ChoicesWritten items values) : (inSet values).Sound := by
  have hlength := h.each.length_eq
  refine ⟨hlength ▸ h.some, hlength ▸ h.few, fun l hl => ?_⟩
  obtain ⟨i, hi, rfl⟩ := List.getElem_of_mem hl
  exact (h.each.get (hlength ▸ hi) hi).sound

/-- An operator is written with its operand for a sound condition. -/
lemma Written.sound {word : String} {operand : Json} {c : Condition}
    (h : Written word operand c) : c.Sound := by
  cases h with
  | eq h | compare _ h => exact h.sound
  | inSet h => exact h.sound
  | between hlow hhigh => exact ⟨hlow.sound, hhigh.sound⟩
  | contains h => exact h.sound.display

/-- A value is written for sound conditions, and at least one. -/
lemma AllWritten.sound {value : Json} {conditions : List Condition}
    (h : AllWritten value conditions) : conditions ≠ [] ∧ ∀ c ∈ conditions, c.Sound := by
  cases h with
  | null => exact ⟨by simp, by simp [Sound]⟩
  | scalar h => exact ⟨by simp, by simpa [Sound] using h.sound⟩
  | list h => exact ⟨by simp, by simpa using h.sound⟩
  | @operations members _ hsome h =>
    have hlength := h.length_eq
    refine ⟨fun hnil => hsome ?_, fun c hc => ?_⟩
    · rw [← List.length_eq_zero_iff, hlength, hnil, List.length_nil]
    · obtain ⟨i, hi, rfl⟩ := List.getElem_of_mem hc
      exact (h.get (hlength ▸ hi) hi).sound

end Condition

/-! ## Filters -/

/-- Filters within the ceilings on values, with something to hold. -/
structure ColumnFilter.Sound (f : ColumnFilter) : Prop where
  /-- There is a condition. -/
  demanding : f.conditions ≠ []
  /-- Every condition is sound. -/
  conditions : ∀ c ∈ f.conditions, c.Sound

/-- **Every filter that is read is sound.** -/
theorem ColumnFilter.sound_of_ofJson {name : String} {value : Json} {f : ColumnFilter}
    (h : ColumnFilter.ofJson name value = .ok f) : f.Sound := by
  obtain ⟨hsome, hsound⟩ := (ofJson_eq_ok_iff.mp h).conditions.sound
  exact ⟨hsome, hsound⟩

end QueryGate
