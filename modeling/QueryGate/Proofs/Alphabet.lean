import Mathlib.Data.List.Basic
import QueryGate.Ident
import QueryGate.Text.Blank

set_option relaxedAutoImplicit false
set_option autoImplicit false

/-!
# The alphabet of names

A name holds only characters of the alphabet of names, so none that means something outside of
names in a statement. Numbers are written in digits alone.

## Main definitions

* `QueryGate.IsName` — the texts that may stand as a name of at most so many bytes.
* `QueryGate.IsColumnName` — the texts that may stand as the name of a column.

## Main results

* `QueryGate.nameFault?_eq_none_iff` — a text without a fault is a name.
* `QueryGate.Ident.isColumnName` — a name that is taken may stand as that of a column.
* `QueryGate.Ident.exists_column_iff` — every such text is taken.
* `QueryGate.Ident.isNameChar_of_mem` — every character of a name is of the alphabet.
* `QueryGate.not_mem_toDigits`, `QueryGate.not_mem_toString` — a character that is no digit is in no
  number.
-/

namespace QueryGate

/-- The texts that may stand as a name of at most `limit` bytes. -/
structure IsName (limit : ℕ) (name : String) : Prop where
  /-- There is a character. -/
  nonempty : name ≠ ""
  /-- There are not too many bytes. -/
  short : name.utf8ByteSize ≤ limit
  /-- Every character is an ASCII letter or digit, an underscore, a dot or a hyphen. -/
  alphabet : ∀ c ∈ name.toList, c.isAlphanum = true ∨ c = '_' ∨ c = '.' ∨ c = '-'
  /-- No two dots stand in a row. -/
  apart : ¬ ['.', '.'] <:+: name.toList
  /-- It is no keyword, in any letter case. -/
  unreserved : lowerName name ∉ reservedWords

/-- The texts that may stand as the name of a column. -/
structure IsColumnName (name : String) : Prop where
  /-- There is a character. -/
  nonempty : name ≠ ""
  /-- There are at most 100 bytes. -/
  short : name.utf8ByteSize ≤ 100
  /-- Every character is an ASCII letter or digit, an underscore, a dot or a hyphen. -/
  alphabet : ∀ c ∈ name.toList, c.isAlphanum = true ∨ c = '_' ∨ c = '.' ∨ c = '-'
  /-- No two dots stand in a row. -/
  apart : ¬ ['.', '.'] <:+: name.toList
  /-- It is no keyword, in any letter case. -/
  unreserved : lowerName name ∉ reservedWords

/-- What leads nowhere has no two dots in a row. -/
lemma not_infix_of_isPathLike : ∀ {cs : List Char}, isPathLike cs = false → ¬ ['.', '.'] <:+: cs
  | [], _, h => by simp at h
  | c :: cs, hpath, h => by
    rcases List.infix_cons_iff.mp h with ⟨rest, hrest⟩ | htail
    · rw [← hrest] at hpath
      exact absurd hpath (by simp [isPathLike])
    · unfold isPathLike at hpath
      split at hpath
      · exact absurd hpath nofun
      · next heq =>
        obtain ⟨rfl, rfl⟩ := List.cons.inj heq
        have htailPath := (Bool.or_eq_false_iff.mp hpath).2
        exact not_infix_of_isPathLike htailPath htail
      · next heq => exact absurd heq nofun

/-- What holds neither slashes nor two dots in a row leads nowhere. -/
lemma isPathLike_eq_false : ∀ {cs : List Char}, (∀ c ∈ cs, c ≠ '/' ∧ c ≠ '\\') →
    ¬ ['.', '.'] <:+: cs → isPathLike cs = false
  | [], _, _ => rfl
  | c :: cs, hslash, hdots => by
    have hrest : isPathLike cs = false :=
      isPathLike_eq_false (fun c' hc' => hslash c' (List.mem_cons_of_mem _ hc')) fun h =>
        hdots (h.trans (List.suffix_cons c cs).isInfix)
    unfold isPathLike
    split
    · next heq => exact absurd (heq ▸ (List.prefix_append ['.', '.'] _).isInfix) hdots
    · next heq =>
      obtain ⟨rfl, rfl⟩ := List.cons.inj heq
      simp [hslash c List.mem_cons_self, hrest]
    · rfl

/-- The alphabet of names, spelled out. -/
lemma all_isNameChar_iff {cs : List Char} : cs.all isNameChar = true ↔
    ∀ c ∈ cs, c.isAlphanum = true ∨ c = '_' ∨ c = '.' ∨ c = '-' := by
  simp [isNameChar, or_assoc]

/-- The ASCII letters and digits stand before the end of ASCII. -/
lemma lt_of_isAlphanum {c : Char} (h : c.isAlphanum = true) : c.toNat < 0x80 := by
  have hupper : c.isUpper = true → c.val ≤ 'Z'.val := fun h => (of_decide_eq_true h).2
  have hlower : c.isLower = true → c.val ≤ 'z'.val := fun h =>
    of_decide_eq_true ((Bool.and_eq_true _ _).mp h).2
  have hdigit : c.isDigit = true → c.val ≤ '9'.val := fun h =>
    of_decide_eq_true ((Bool.and_eq_true _ _).mp h).2
  have hcases : (c.isUpper = true ∨ c.isLower = true) ∨ c.isDigit = true := by
    rw [← Bool.or_eq_true, ← Bool.or_eq_true]
    exact h
  rcases hcases with (h | h) | h
  · exact Nat.lt_of_le_of_lt (hupper h) (by decide)
  · exact Nat.lt_of_le_of_lt (hlower h) (by decide)
  · exact Nat.lt_of_le_of_lt (hdigit h) (by decide)

/-- No character of the alphabet of names is white space. -/
lemma isBlank_eq_false_of_letter {c : Char}
    (h : c.isAlphanum = true ∨ c = '_' ∨ c = '.' ∨ c = '-') : Text.isBlank c = false := by
  have hascii : ∀ n < 0x80, (Char.ofNat n).isAlphanum = true →
      Text.isBlank (Char.ofNat n) = false := by decide
  rcases h with h | rfl | rfl | rfl
  · simpa [h] using hascii c.toNat (lt_of_isAlphanum h)
  all_goals decide

/-- A text has no fault exactly when it may stand as a name. -/
lemma nameFault?_eq_none_iff {limit : ℕ} {name : String} :
    nameFault? limit name = none ↔ IsName limit name := by
  constructor
  · intro h
    unfold nameFault? at h
    split_ifs at h with hempty hlong hpath hletters hreserved
    have hall : name.toList.all isNameChar = true := by simpa using hletters
    exact ⟨fun h => hempty (by simp [h]), Nat.le_of_not_lt hlong, all_isNameChar_iff.mp hall,
      not_infix_of_isPathLike (by simpa using hpath), by simpa using hreserved⟩
  · intro h
    have hletters : name.toList.all isNameChar = true := all_isNameChar_iff.mpr h.alphabet
    have hpath : isPathLike name.toList = false := by
      refine isPathLike_eq_false (fun c hc => ?_) h.apart
      constructor <;> rintro rfl <;> exact absurd (List.all_eq_true.mp hletters _ hc) (by decide)
    unfold nameFault?
    rw [if_neg (by simpa using h.nonempty), if_neg (Nat.not_lt.mpr h.short), hpath, hletters]
    simpa using h.unreserved

/-- The names of columns are the names of at most 100 bytes. -/
lemma isColumnName_iff {name : String} : IsColumnName name ↔ IsName identLimit name :=
  ⟨fun h => ⟨h.nonempty, h.short, h.alphabet, h.apart, h.unreserved⟩,
    fun h => ⟨h.nonempty, h.short, h.alphabet, h.apart, h.unreserved⟩⟩

instance (limit : ℕ) (name : String) : Decidable (IsName limit name) :=
  decidable_of_iff _ nameFault?_eq_none_iff

instance (name : String) : Decidable (IsColumnName name) := decidable_of_iff _ isColumnName_iff.symm

namespace Ident

/-- A name that is taken may stand as the name of a column. -/
lemma isColumnName (i : Ident) : IsColumnName i.text :=
  isColumnName_iff.mpr (nameFault?_eq_none_iff.mp i.sound)

/-- A name is taken as the one with its text, whatever it names. -/
lemma ofKind_eq_ok_iff {kind : NameKind} {name : String} {i : Ident} :
    ofKind kind name = .ok i ↔ i.text = name := by
  unfold ofKind
  constructor
  · intro h
    split at h
    · rw [← Except.ok.inj h]
    · exact absurd h nofun
  · rintro rfl
    split
    · rfl
    · next fault hfault => exact absurd (i.sound.symm.trans hfault) nofun

lemma column_eq_ok_iff {name : String} {c : Ident} : column name = .ok c ↔ c.text = name :=
  ofKind_eq_ok_iff

lemma table_eq_ok_iff {name : String} {t : Ident} : table name = .ok t ↔ t.text = name :=
  ofKind_eq_ok_iff

/-- A text is taken as the name of a column exactly when it may stand as one. -/
lemma exists_column_iff {name : String} :
    (∃ c, column name = .ok c) ↔ IsColumnName name := by
  simp only [column_eq_ok_iff]
  refine ⟨fun ⟨c, hc⟩ => hc ▸ c.isColumnName, fun h => ⟨⟨name, ?_⟩, rfl⟩⟩
  exact nameFault?_eq_none_iff.mpr (isColumnName_iff.mp h)

/-- Every character of a name is of the alphabet of names. -/
lemma isNameChar_of_mem (i : Ident) {c : Char} (hc : c ∈ i.text.toList) :
    isNameChar c = true := by
  simpa [isNameChar, or_assoc] using i.isColumnName.alphabet c hc

end Ident

/-- A character that is no digit is not among digits. -/
lemma not_mem_toDigits (n : Nat) {c : Char} (hc : c.isDigit = false) : c ∉ Nat.toDigits 10 n := by
  intro hmem
  rw [Nat.isDigit_of_mem_toDigits (by decide) (by decide) hmem] at hc
  exact Bool.noConfusion hc

/-- A character that is no digit is in no number. -/
lemma not_mem_toString (n : Nat) {c : Char} (hc : c.isDigit = false) :
    c ∉ (toString n).toList := by
  rw [Nat.toString_eq_repr, Nat.toList_repr]
  exact not_mem_toDigits n hc

end QueryGate
