import Mathlib.Data.List.Basic

set_option relaxedAutoImplicit false
set_option autoImplicit false

/-!
# The order of bytes

Texts compare by their characters, and just so by the bytes that write them: the encoding gives a
smaller character the smaller bytes, whatever stands behind it.

## Main definitions

* `QueryGate.Text.bytes` — the bytes that write a text.

## Main results

* `QueryGate.Text.encode_lt` — the bytes of the smaller of two characters are smaller.
* `QueryGate.Text.bytes_lt_iff` — texts compare as their bytes do.
-/

namespace QueryGate.Text

/-- The bytes that write a text. -/
def bytes (s : String) : List UInt8 := s.toUTF8.data.toList

/-- The bytes of a text are those of its characters. -/
lemma bytes_eq_flatMap (s : String) : bytes s = s.toList.flatMap String.utf8EncodeChar := by
  rw [bytes, String.toUTF8_eq_toByteArray, ← String.utf8Encode_toList, List.utf8Encode,
    List.toList_data_toByteArray]

/-- **The bytes of the smaller of two characters are smaller,** whatever stands behind them.

**Proof sketch.** A character takes one to four bytes, the first of which tells how many and is the
greater the more there are. Characters with as many bytes have the digits of their code points to
the base 64 in them, the highest first. -/
lemma encode_lt {c d : Char} (h : c < d) (u v : List UInt8) :
    String.utf8EncodeChar c ++ u < String.utf8EncodeChar d ++ v := by
  have hcd : c.val.toNat < d.val.toNat := h
  have hd : d.val.toNat < 0x110000 := by
    have hvalid := d.valid
    simp only [UInt32.isValidChar, Nat.isValidChar] at hvalid
    omega
  have hdigits : ∀ n : Nat, n / 64 / 64 = n / 4096 ∧ n / 4096 / 64 = n / 262144 := fun n =>
    ⟨Nat.div_div_eq_div_mul n 64 64, Nat.div_div_eq_div_mul n 4096 64⟩
  obtain ⟨hc₁, hc₂⟩ := hdigits c.val.toNat
  obtain ⟨hd₁, hd₂⟩ := hdigits d.val.toNat
  simp only [String.utf8EncodeChar]
  -- One case for each number of bytes of the two.
  split_ifs <;>
    simp (disch := omega) only [List.cons_append, List.nil_append, List.cons_lt_cons_iff,
      UInt8.lt_iff_toNat_lt, ← UInt8.toNat_inj, UInt8.toNat_ofNat', Nat.mod_eq_of_lt] <;>
    omega

/-- The bytes of the smaller of two rows of characters are smaller. -/
lemma flatMap_encode_lt : ∀ {as bs : List Char}, as < bs →
    as.flatMap String.utf8EncodeChar < bs.flatMap String.utf8EncodeChar
  | _, [], h => absurd h (List.not_lt_nil _)
  | [], b :: bs, _ => by
    obtain ⟨x, xs, hb⟩ := List.exists_cons_of_ne_nil (String.utf8EncodeChar_ne_nil (c := b))
    rw [List.flatMap_nil, List.flatMap_cons, hb]
    exact List.nil_lt_cons _ _
  | a :: as, b :: bs, h => by
    rw [List.flatMap_cons, List.flatMap_cons]
    rcases List.cons_lt_cons_iff.mp h with hlt | ⟨rfl, hlt⟩
    · exact encode_lt hlt _ _
    · exact List.append_left_lt (flatMap_encode_lt hlt)

lemma bytes_lt_of_lt {a b : String} (h : a < b) : bytes a < bytes b := by
  rw [bytes_eq_flatMap, bytes_eq_flatMap]
  exact flatMap_encode_lt (String.lt_iff.mp h)

/-- **Texts compare as their bytes do.** -/
theorem bytes_lt_iff {a b : String} : bytes a < bytes b ↔ a < b := by
  refine ⟨fun h => ?_, bytes_lt_of_lt⟩
  by_contra hnot
  by_cases heq : b = a
  · exact List.lt_irrefl _ (heq ▸ h)
  · have hlt : b < a := Std.lt_of_le_of_ne (String.not_lt.mp hnot) heq
    exact List.lt_asymm h (bytes_lt_of_lt hlt)

lemma bytes_le_iff {a b : String} : bytes a ≤ bytes b ↔ a ≤ b := by
  rw [← List.not_lt, bytes_lt_iff, String.not_lt]

end QueryGate.Text
