import Mathlib.Data.List.DropRight
import QueryGate.Text.Blank
import QueryGate.Text.Case

set_option relaxedAutoImplicit false
set_option autoImplicit false

/-!
# Trimmed texts

A text is trimmed when there is no white space at its two ends. Lower case leaves white space as it
is and turns nothing else into white space, so texts with one lower-case form are both trimmed or
neither is.

## Main definitions

* `QueryGate.Text.IsTrimmed` — there is no white space at the two ends of a text.

## Main results

* `QueryGate.Text.trimChars_eq_self_iff` — trimming changes what is not trimmed.
* `QueryGate.Text.trim_trim` — a text is trimmed once.
* `QueryGate.Text.isBlank_of_mem_lowerChar` — lower case and white space.
* `QueryGate.Text.trim_eq_self_iff_of_lower_eq` — texts that differ in letter case.
-/

namespace QueryGate.Text

/-! ## Trimming -/

/-- There is no white space at the two ends of a text. -/
structure IsTrimmed (cs : List Char) : Prop where
  /-- The first character is no white space. -/
  head : cs.head?.map isBlank ≠ some true
  /-- Neither is the last one. -/
  last : cs.getLast?.map isBlank ≠ some true

lemma trimChars_eq_rdropWhile (cs : List Char) :
    trimChars cs = (cs.dropWhile isBlank).rdropWhile isBlank := rfl

lemma isTrimmed_trimChars (cs : List Char) : IsTrimmed (trimChars cs) := by
  rw [trimChars_eq_rdropWhile]
  have hprefix := List.rdropWhile_prefix isBlank (cs.dropWhile isBlank)
  constructor
  · cases hkept : (cs.dropWhile isBlank).rdropWhile isBlank with
    | nil => simp
    | cons c rest =>
      -- What is dropped from the end leaves the first character in place.
      obtain ⟨dropped, hdropped⟩ := hkept ▸ hprefix
      have hhead := List.head?_dropWhile_not isBlank cs
      rw [← hdropped] at hhead
      simpa using hhead
  · by_cases hne : (cs.dropWhile isBlank).rdropWhile isBlank = []
    · simp [hne]
    · have hlast := List.rdropWhile_last_not isBlank (cs.dropWhile isBlank) hne
      simpa [List.getLast?_eq_getLast_of_ne_nil hne] using hlast

/-- Trimming changes exactly what is not trimmed. -/
lemma trimChars_eq_self_iff {cs : List Char} : trimChars cs = cs ↔ IsTrimmed cs := by
  refine ⟨fun h => h ▸ isTrimmed_trimChars cs, fun h => ?_⟩
  have hhead : cs.dropWhile isBlank = cs := by
    cases cs with
    | nil => rfl
    | cons c rest => exact List.dropWhile_cons_of_neg (by simpa using h.head)
  have hlast : cs.rdropWhile isBlank = cs := by
    refine List.rdropWhile_eq_self_iff.mpr fun hne => ?_
    simpa [List.getLast?_eq_getLast_of_ne_nil hne] using h.last
  rw [trimChars_eq_rdropWhile, hhead, hlast]

lemma trim_eq_self_iff {s : String} : trim s = s ↔ IsTrimmed s.toList := by
  rw [← trimChars_eq_self_iff, trim, ← String.toList_inj, String.toList_ofList]

/-- A text is trimmed once and for all. -/
@[simp]
lemma trim_trim (s : String) : trim (trim s) = trim s := by
  rw [trim_eq_self_iff, trim, String.toList_ofList]
  exact isTrimmed_trimChars s.toList

/-! ## Lower case -/

/-- Code ranges of white space. -/
def blankRanges : List (Nat × Nat) := [
  (0x9, 0xD), (0x20, 0x20), (0x85, 0x85), (0xA0, 0xA0), (0x1680, 0x1680), (0x2000, 0x200A),
  (0x2028, 0x2029), (0x202F, 0x202F), (0x205F, 0x205F), (0x3000, 0x3000)]

lemma isBlank_eq_inRanges (c : Char) : isBlank c = inRanges blankRanges c := by
  rw [Bool.eq_iff_iff]
  simp only [isBlank, inRanges, blankRanges, List.any_cons, List.any_nil, Bool.or_eq_true,
    Bool.and_eq_true, decide_eq_true_eq, beq_iff_eq, Bool.false_eq_true, or_false]
  omega

/-- Neither the characters of a run nor their lower-case forms are white space. -/
lemma lowerRuns_apart : ∀ run ∈ lowerRuns, ∀ r ∈ blankRanges,
    (r.2 < run.1 ∨ run.2.1 < r.1) ∧
      ((r.2 : Int) < run.1 + run.2.2.2 ∨ ((run.2.1 : Int) + run.2.2.2).toNat < r.1) := by
  decide +kernel

lemma isBlank_ofNat {n : Nat} (h : ∀ r ∈ blankRanges, n < r.1 ∨ r.2 < n) :
    isBlank (Char.ofNat n) = false := by
  rw [isBlank_eq_inRanges]
  by_cases hvalid : n.isValidChar
  · have hcode : (Char.ofNat n).toNat = n := by
      rw [Char.ofNat, dif_pos hvalid]
      rfl
    simp only [inRanges, hcode, List.any_eq_false, Bool.and_eq_true, decide_eq_true_eq]
    intro r hr
    have := h r hr
    omega
  · rw [Char.ofNat, dif_neg hvalid]
    decide

lemma isBlank_toLower {c : Char} (h : c.toNat < 0x80) : isBlank c.toLower = isBlank c := by
  have hascii : ∀ n < 0x80, isBlank (Char.ofNat n).toLower = isBlank (Char.ofNat n) := by decide
  simpa using hascii c.toNat h

/-- The lower-case form of a character is white space exactly when the character is. -/
lemma isBlank_of_mem_lowerChar {c d : Char} (h : d ∈ lowerChar c) : isBlank d = isBlank c := by
  unfold lowerChar at h
  split_ifs at h with hascii hdotted
  · rw [List.mem_singleton.mp h, isBlank_toLower hascii]
  · rw [← Char.ofNat_toNat c, hdotted]
    rcases List.mem_pair.mp h with rfl | rfl <;> decide
  · split at h
    · next lo hi step distance hfind =>
      have hbounds : lo ≤ c.toNat ∧ c.toNat ≤ hi := by
        have hrun := List.find?_some hfind
        simp only [Bool.and_eq_true, decide_eq_true_eq] at hrun
        exact hrun.1
      have hapart := lowerRuns_apart _ (List.mem_of_find?_eq_some hfind)
      dsimp only at hapart
      have hc : isBlank c = false := by
        rw [← Char.ofNat_toNat c]
        refine isBlank_ofNat fun r hr => ?_
        have := hapart r hr
        omega
      rw [List.mem_singleton.mp h, hc]
      refine isBlank_ofNat fun r hr => ?_
      have := hapart r hr
      omega
    · rw [List.mem_singleton.mp h]

/-- No character has an empty lower-case form. -/
lemma lowerChar_ne_nil (c : Char) : lowerChar c ≠ [] := by
  unfold lowerChar
  split_ifs
  · simp
  · simp
  · split <;> simp

/-- Each character of a text has a lower-case form of its own, which is white space exactly when the
character is. -/
lemma exists_lowerFrom_cons (before : List Char) (c : Char) (cs : List Char) :
    ∃ ds, ds ≠ [] ∧ (∀ d ∈ ds, isBlank d = isBlank c) ∧
      lowerFrom before (c :: cs) = ds ++ lowerFrom (c :: before) cs := by
  rw [lowerFrom]
  by_cases hc : c = 'Σ'
  · subst hc
    refine ⟨_, List.cons_ne_nil _ _, fun d hd => ?_, by rw [if_pos rfl]⟩
    rw [List.mem_singleton.mp hd]
    split <;> decide
  · exact ⟨_, lowerChar_ne_nil c, fun d => isBlank_of_mem_lowerChar, by rw [if_neg hc]⟩

lemma head?_lowerFrom (before cs : List Char) :
    (lowerFrom before cs).head?.map isBlank = cs.head?.map isBlank := by
  cases cs with
  | nil => rfl
  | cons c cs =>
    obtain ⟨ds, hne, hblank, hlower⟩ := exists_lowerFrom_cons before c cs
    obtain ⟨d, rest, rfl⟩ := List.exists_cons_of_ne_nil hne
    rw [hlower]
    simp [hblank]

lemma getLast?_lowerFrom (before cs : List Char) :
    (lowerFrom before cs).getLast?.map isBlank = cs.getLast?.map isBlank := by
  induction cs generalizing before with
  | nil => rfl
  | cons c cs ih =>
    obtain ⟨ds, hne, hblank, hlower⟩ := exists_lowerFrom_cons before c cs
    have hlast : ds.getLast?.map isBlank = some (isBlank c) := by
      rw [List.getLast?_eq_getLast_of_ne_nil hne, Option.map_some,
        hblank _ (List.getLast_mem hne)]
    rw [hlower, List.getLast?_append, Option.map_or, ih, hlast, List.getLast?_cons]
    cases cs.getLast? <;> rfl

/-- Lower case keeps a text trimmed, and makes no text trimmed. -/
lemma isTrimmed_lowerFrom_iff {before cs : List Char} :
    IsTrimmed (lowerFrom before cs) ↔ IsTrimmed cs :=
  ⟨fun ⟨hhead, hlast⟩ => ⟨head?_lowerFrom before cs ▸ hhead, getLast?_lowerFrom before cs ▸ hlast⟩,
    fun ⟨hhead, hlast⟩ =>
      ⟨(head?_lowerFrom before cs).symm ▸ hhead, (getLast?_lowerFrom before cs).symm ▸ hlast⟩⟩

/-- Of texts with one lower-case form, both are trimmed or neither is. -/
lemma trim_eq_self_iff_of_lower_eq {a b : String} (h : lower a = lower b) :
    trim a = a ↔ trim b = b := by
  have hchars : lowerFrom [] a.toList = lowerFrom [] b.toList := by
    simpa [lower] using congrArg String.toList h
  rw [trim_eq_self_iff, trim_eq_self_iff, ← isTrimmed_lowerFrom_iff, hchars,
    isTrimmed_lowerFrom_iff]

end QueryGate.Text
