import QueryGate.Proofs.Outcome
import QueryGate.Proofs.Text.Trim

set_option relaxedAutoImplicit false
set_option autoImplicit false

/-!
# Words between white space

The words of a text are what is left of a cut at every white space once the empty parts are left
out. So white space may stand around a text and between its words as it likes.

## Main definitions

* `QueryGate.Text.IsBlankText` — a text of nothing but white space.
* `QueryGate.Text.IsWord` — a text that is one word.
* `QueryGate.Text.Spells` — a word written in letters of any case.

## Main results

* `QueryGate.Text.wordsFrom_eq_filter` — words are the parts of a cut that are not empty.
* `QueryGate.Text.words_append_blank` — the words of two texts with white space between them.
* `QueryGate.Text.words_trim` — white space around a text makes no difference.
-/

namespace QueryGate.Text

/-- A text of nothing but white space. -/
def IsBlankText (s : String) : Prop := ∀ c ∈ s.toList, isBlank c = true

instance (s : String) : Decidable (IsBlankText s) :=
  List.decidableBAll (fun c => isBlank c = true) s.toList

/-- A text that is one word: some characters, none of them white space. -/
structure IsWord (s : String) : Prop where
  /-- There is a character. -/
  nonempty : s ≠ ""
  /-- None is white space. -/
  solid : ∀ c ∈ s.toList, isBlank c = false

/-! ## Words of parts -/

/-- The words of a text are the parts of its cut at white space that are not empty; the word that is
being read joins the first part. -/
lemma wordsFrom_eq_filter (run cs : List Char) :
    wordsFrom run cs = (List.splitOnPPrepend isBlank cs run).filter fun w => !w.isEmpty := by
  induction cs generalizing run with
  | nil => cases run <;> simp [wordsFrom, List.splitOnPPrepend_nil]
  | cons c cs ih =>
    rw [wordsFrom, List.splitOnPPrepend_cons_eq_if]
    by_cases hc : isBlank c = true
    · rw [if_pos hc, if_pos hc, ih, List.splitOnPPrepend_nil_right]
      cases run <;> simp
    · rw [if_neg hc, if_neg hc, ih]

/-- White space parts the words before it from those behind it. -/
lemma wordsFrom_append_cons {b : Char} (hb : isBlank b = true) (cs ds : List Char) :
    wordsFrom [] (cs ++ b :: ds) = wordsFrom [] cs ++ wordsFrom [] ds := by
  simp only [wordsFrom_eq_filter, List.splitOnPPrepend_nil_right,
    List.splitOnP_append_cons cs ds hb, List.filter_append]

/-- White space before a text makes no difference. -/
lemma wordsFrom_blank_append {bs : List Char} (h : ∀ c ∈ bs, isBlank c = true) (cs : List Char) :
    wordsFrom [] (bs ++ cs) = wordsFrom [] cs := by
  induction bs with
  | nil => rfl
  | cons b bs ih =>
    rw [List.forall_mem_cons] at h
    have hcons := wordsFrom_append_cons h.1 [] (bs ++ cs)
    rwa [List.nil_append, ih h.2] at hcons

/-- White space holds no words. -/
lemma wordsFrom_of_blank {bs : List Char} (h : ∀ c ∈ bs, isBlank c = true) :
    wordsFrom [] bs = [] := by
  simpa [wordsFrom] using wordsFrom_blank_append h []

/-- White space behind a text makes no difference either. -/
lemma wordsFrom_append_blank {bs : List Char} (h : ∀ c ∈ bs, isBlank c = true) (cs : List Char) :
    wordsFrom [] (cs ++ bs) = wordsFrom [] cs := by
  cases bs with
  | nil => rw [List.append_nil]
  | cons b bs =>
    rw [List.forall_mem_cons] at h
    rw [wordsFrom_append_cons h.1, wordsFrom_of_blank h.2, List.append_nil]

/-- Characters without white space are one word. -/
lemma wordsFrom_of_solid {cs : List Char} (hne : cs ≠ []) (h : ∀ c ∈ cs, isBlank c = false) :
    wordsFrom [] cs = [cs] := by
  rw [wordsFrom_eq_filter, List.splitOnPPrepend_nil_right, List.splitOnP_eq_singleton h]
  simp [hne]

/-! ## Words of texts -/

variable {s t b : String}

lemma words_of_isWord (h : IsWord s) : words s = [s] := by
  rw [words, wordsFrom_of_solid (by simpa using h.nonempty) h.solid]
  simp

lemma words_blank_append (h : IsBlankText b) : words (b ++ s) = words s := by
  rw [words, String.toList_append, wordsFrom_blank_append h, words]

lemma words_append_blank (h : IsBlankText b) : words (s ++ b) = words s := by
  rw [words, String.toList_append, wordsFrom_append_blank h, words]

/-- White space between two texts parts their words. -/
lemma words_append_blank_append (hne : b ≠ "") (h : IsBlankText b) :
    words (s ++ b ++ t) = words s ++ words t := by
  obtain ⟨c, bs, hbs⟩ := List.exists_cons_of_ne_nil (show b.toList ≠ [] by simpa using hne)
  rw [IsBlankText, hbs, List.forall_mem_cons] at h
  simp only [words, String.toList_append, hbs, List.append_assoc, List.cons_append]
  rw [wordsFrom_append_cons h.1, wordsFrom_blank_append h.2, List.map_append]

/-! ## Trimming -/

/-- What trimming takes away is white space. -/
lemma exists_trimChars_append (cs : List Char) : ∃ before after,
    (∀ c ∈ before, isBlank c = true) ∧ (∀ c ∈ after, isBlank c = true) ∧
      cs = before ++ trimChars cs ++ after := by
  refine ⟨cs.takeWhile isBlank, (cs.dropWhile isBlank).rtakeWhile isBlank, ?_, ?_, ?_⟩
  · exact fun c hc => List.mem_takeWhile_imp hc
  · exact fun c hc => List.mem_rtakeWhile_imp hc
  · rw [trimChars_eq_rdropWhile, List.append_assoc, List.rdropWhile_append_rtakeWhile,
      List.takeWhile_append_dropWhile]

/-- White space around a text makes no difference to its words. -/
@[simp]
lemma words_trim (s : String) : words (trim s) = words s := by
  obtain ⟨before, after, hbefore, hafter, heq⟩ := exists_trimChars_append s.toList
  have hwords : wordsFrom [] s.toList = wordsFrom [] (trimChars s.toList) := by
    conv_lhs => rw [heq]
    rw [List.append_assoc, wordsFrom_blank_append hbefore, wordsFrom_append_blank hafter]
  rw [words, words, hwords, trim, String.toList_ofList]

/-- A text with words in it is not empty once it is trimmed. -/
lemma trim_ne_empty (h : words s ≠ []) : trim s ≠ "" := by
  intro hempty
  rw [← words_trim, hempty] at h
  exact h rfl

/-! ## Letter case -/

/-- A word is written in letters of any case. -/
def Spells (word written : String) : Prop :=
  List.Forall₂ (fun l c => c = l ∨ c = l.toUpper) word.toList written.toList

instance (word written : String) : Decidable (Spells word written) :=
  inferInstanceAs (Decidable (List.Forall₂ (fun l c : Char => c = l ∨ c = l.toUpper) _ _))

/-- Every character of a spelled word is a letter of the word or its capital. -/
lemma Spells.exists_letter {word written : String} (h : Spells word written) {c : Char}
    (hc : c ∈ written.toList) : ∃ l ∈ word.toList, c = l ∨ c = l.toUpper :=
  Outcome.exists_of_forall₂ h.flip hc

/-- What is true of every letter of a word and of its capital is true of every character that it is
spelled with. -/
lemma Spells.forall_mem {word written : String} {p : Char → Bool} (h : Spells word written)
    (hword : word.toList.all (fun l => p l && p l.toUpper) = true) :
    ∀ c ∈ written.toList, p c = true := by
  simp only [List.all_eq_true, Bool.and_eq_true] at hword
  intro c hc
  obtain ⟨l, hl, rfl | rfl⟩ := h.exists_letter hc
  · exact (hword c hl).1
  · exact (hword l hl).2

/-- However a word is spelled, it is that word with the case of ASCII letters apart. -/
lemma Spells.map_toLower {word written : String} (h : Spells word written)
    (hword : word.toList.all (fun l => l.toUpper.toLower == l.toLower) = true) :
    written.toList.map Char.toLower = word.toList.map Char.toLower := by
  have hall : List.Forall₂ (fun l c => l ∈ word.toList ∧ (c = l ∨ c = l.toUpper))
      word.toList written.toList := (List.forall₂_and_left _ _).mpr ⟨fun _ hl => hl, h⟩
  symm
  rw [← List.forall₂_eq_eq_eq, List.forall₂_map_left_iff, List.forall₂_map_right_iff]
  refine hall.imp ?_
  rintro l c ⟨hl, rfl | rfl⟩
  · rfl
  · exact (of_decide_eq_true (List.all_eq_true.mp hword l hl)).symm

end QueryGate.Text
