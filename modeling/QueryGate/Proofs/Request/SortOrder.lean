import QueryGate.Proofs.Alphabet
import QueryGate.Proofs.Text.Fields
import QueryGate.Proofs.Text.Words
import QueryGate.Request.Order

set_option relaxedAutoImplicit false
set_option autoImplicit false

/-!
# Sort orders read back

A sort order may be written in many ways, and each is read as the terms that it was written for. It
makes no difference whether the terms come as a list or as one text with commas between them, as
long as none holds a comma: what is no sort order is then refused the same.

## Main definitions

* `QueryGate.SortTerm.Form` — the ways to write a term.
* `QueryGate.SortTerm.Written` — a text that writes a term, with white space around it or not.

## Main results

* `QueryGate.SortTerm.Written.parse` — a written term is read back.
* `QueryGate.OrderSpec.terms_joined` — joined texts have the terms of the texts.
* `QueryGate.OrderSpec.parse_written` — sort orders as a whole.
-/

namespace QueryGate

open Outcome

namespace SortTerm

/-! ## Written terms -/

/-- The word for a direction. -/
def directionWord (descending : Bool) : String := if descending then "desc" else "asc"

/-- The ways to write a term: the column with a word for the direction behind it, the column alone,
or the column with a hyphen before it. -/
inductive Form : String → SortTerm → Prop
  | word {column between direction : String} (descending : Bool) (hcolumn : IsColumnName column)
      (hne : between ≠ "") (hbetween : Text.IsBlankText between)
      (hdirection : Text.Spells (directionWord descending) direction) :
      Form (column ++ between ++ direction) ⟨column, descending⟩
  | bare {column : String} (hcolumn : IsColumnName column)
      (hfirst : column.toList.head? ≠ some '-') : Form column ⟨column, false⟩
  | hyphen {column : String} (hcolumn : IsColumnName column) : Form ("-" ++ column) ⟨column, true⟩

/-- A text that writes a term, with white space around it as one likes. -/
def Written (text : String) (t : SortTerm) : Prop :=
  ∃ before core after, Text.IsBlankText before ∧ Text.IsBlankText after ∧ Form core t ∧
    text = before ++ core ++ after

variable {text core column : String} {t : SortTerm}

/-! ## Words of written terms -/

/-- The name of a column is one word. -/
lemma isWord_of_isColumnName (h : IsColumnName column) : Text.IsWord column :=
  ⟨h.nonempty, fun c hc => isBlank_eq_false_of_letter (h.alphabet c hc)⟩

/-- It stays one with a hyphen before it. -/
lemma isWord_hyphen (h : IsColumnName column) : Text.IsWord ("-" ++ column) := by
  constructor
  case nonempty => simp
  case solid =>
    have hhyphen : Text.isBlank '-' = false := by decide
    simpa [hhyphen] using (isWord_of_isColumnName h).solid

/-- The word for a direction is one, in letters of any case. -/
lemma isWord_of_spells {descending : Bool} {direction : String}
    (h : Text.Spells (directionWord descending) direction) : Text.IsWord direction := by
  constructor
  case nonempty =>
    rintro rfl
    have hlength := h.length_eq
    revert hlength
    cases descending <;> decide
  case solid =>
    have hsolid := h.forall_mem (p := (!Text.isBlank ·)) (by cases descending <;> decide)
    simpa using hsolid

/-- The words for the directions are told apart in letters of any case. -/
lemma sameAscii_of_spells {descending : Bool} {direction : String}
    (h : Text.Spells (directionWord descending) direction) :
    Text.sameAscii direction "desc" = descending ∧
      Text.sameAscii direction "asc" = !descending := by
  have hlower := h.map_toLower (by cases descending <;> decide)
  rw [Text.sameAscii, Text.sameAscii, hlower]
  cases descending <;> decide

/-- The words of a term as written, and that they are read as the term. -/
lemma Form.parse (h : Form core t) (hwords : Text.words text = Text.words core) :
    Text.words core ≠ [] ∧ SortTerm.parse text = .ok t := by
  cases h with
  | word descending hcolumn hne hbetween hdirection =>
    rw [Text.words_append_blank_append hne hbetween,
      Text.words_of_isWord (isWord_of_isColumnName hcolumn),
      Text.words_of_isWord (isWord_of_spells hdirection)] at hwords ⊢
    obtain ⟨hdesc, hasc⟩ := sameAscii_of_spells hdirection
    refine ⟨by simp, ?_⟩
    rw [SortTerm.parse, hwords]
    simp only [List.cons_append, List.nil_append, hdesc, hasc]
    cases descending <;> rfl
  | bare hcolumn hfirst =>
    rw [Text.words_of_isWord (isWord_of_isColumnName hcolumn)] at hwords ⊢
    refine ⟨by simp, ?_⟩
    rw [SortTerm.parse, hwords]
    dsimp only
    split
    · next heq => exact absurd (by rw [heq]; rfl) hfirst
    · rfl
  | @hyphen column hcolumn =>
    rw [Text.words_of_isWord (isWord_hyphen hcolumn)] at hwords ⊢
    refine ⟨by simp, ?_⟩
    have hchars : ("-" ++ column).toList = '-' :: column.toList := by simp
    rw [SortTerm.parse, hwords]
    simp only [hchars, String.ofList_toList]

namespace Written

/-- A written term has the words of what is written. -/
lemma words_eq {before after : String} (hbefore : Text.IsBlankText before)
    (hafter : Text.IsBlankText after) :
    Text.words (Text.trim (before ++ core ++ after)) = Text.words core := by
  rw [Text.words_trim, Text.words_append_blank hafter, Text.words_blank_append hbefore]

/-- **A written term is read back.** -/
lemma parse (h : Written text t) : SortTerm.parse (Text.trim text) = .ok t := by
  obtain ⟨before, core, after, hbefore, hafter, hform, rfl⟩ := h
  exact (hform.parse (words_eq hbefore hafter)).2

/-- A written term is not passed over as empty. -/
lemma trim_ne_empty (h : Written text t) : Text.trim text ≠ "" := by
  obtain ⟨before, core, after, hbefore, hafter, hform, rfl⟩ := h
  have hwords : Text.words (Text.trim (before ++ core ++ after)) = Text.words core :=
    words_eq hbefore hafter
  refine Text.trim_ne_empty ?_
  rw [← Text.words_trim, hwords]
  exact (hform.parse rfl).1

/-- A written term holds no comma. -/
lemma comma_not_mem (h : Written text t) : ',' ∉ text.toList := by
  obtain ⟨before, core, after, hbefore, hafter, hform, rfl⟩ := h
  have hblank : ∀ b, Text.IsBlankText b → ',' ∉ b.toList :=
    fun b hb hmem => absurd (hb ',' hmem) (by decide)
  have hname : ∀ column, IsColumnName column → ',' ∉ column.toList :=
    fun column hcolumn hmem => absurd (hcolumn.alphabet ',' hmem) (by decide)
  simp only [String.toList_append, List.mem_append, not_or]
  refine ⟨⟨hblank _ hbefore, ?_⟩, hblank _ hafter⟩
  cases hform with
  | word descending hcolumn hne hbetween hdirection =>
    have hword := hdirection.forall_mem (p := (· != ',')) (by cases descending <;> decide)
    simp only [String.toList_append, List.mem_append, not_or]
    exact ⟨⟨hname _ hcolumn, hblank _ hbetween⟩, fun hmem => absurd (hword ',' hmem) (by decide)⟩
  | bare hcolumn _ => exact hname _ hcolumn
  | hyphen hcolumn =>
    simp only [String.toList_append, List.mem_append, not_or]
    exact ⟨by decide, hname _ hcolumn⟩

end Written

end SortTerm

namespace OrderSpec

/-- Joined texts have the terms of the texts, if none of them holds a comma. -/
lemma terms_joined {texts : List String} (h : ∀ text ∈ texts, ',' ∉ text.toList) :
    terms (.one (Text.joined "," texts)) = terms (.many texts) := by
  cases texts with
  | nil => decide
  | cons text rest =>
    have hfields := Text.fields_joined (List.cons_ne_nil text rest) h
    unfold terms
    exact congrArg (fun written => (written.map Text.trim).filter (!·.isEmpty)) hfields

/-- A list of written terms is read as those terms. -/
lemma parse_many {texts : List String} {ts : List SortTerm}
    (h : List.Forall₂ SortTerm.Written texts ts) : parse (.many texts) = .ok ts := by
  have hkept : terms (.many texts) = texts.map Text.trim := by
    refine List.filter_eq_self.mpr fun trimmed htrimmed => ?_
    obtain ⟨text, htext, rfl⟩ := List.mem_map.mp htrimmed
    obtain ⟨t, -, hwritten⟩ := exists_of_forall₂ h htext
    simpa using hwritten.trim_ne_empty
  rw [parse, hkept, mapM_eq_ok_iff, List.forall₂_map_left_iff]
  exact h.imp fun text t hwritten => hwritten.parse

/-- **Sort orders are read back.** However the terms are written, with a word for the direction in
letters of any case, with a hyphen or with neither, and with white space around as one likes, both
the list of them and one text with commas between them are read as these terms in order. The two
ways come to the same for any texts without commas.

**Proof sketch.** A term that is written with white space around is trimmed to itself, and told from
its form: a hyphen in front, or the word behind it in letters of any case
(`SortTerm.Written.parse`). No written term holds a comma, so that joined terms are cut where they
were joined (`Text.fields_joined`, `terms_joined`). -/
theorem parse_written :
    (∀ texts ts, List.Forall₂ SortTerm.Written texts ts →
      parse (.many texts) = .ok ts ∧ parse (.one (Text.joined "," texts)) = .ok ts) ∧
    ∀ texts, (∀ text ∈ texts, ',' ∉ text.toList) →
      parse (.one (Text.joined "," texts)) = parse (.many texts) := by
  have hjoined : ∀ texts, (∀ text ∈ texts, ',' ∉ text.toList) →
      parse (.one (Text.joined "," texts)) = parse (.many texts) := by
    intro texts h
    rw [parse, parse, terms_joined h]
  refine ⟨fun texts ts h => ⟨parse_many h, ?_⟩, hjoined⟩
  rw [hjoined texts fun text htext => ?_]
  · exact parse_many h
  · obtain ⟨t, -, hwritten⟩ := exists_of_forall₂ h htext
    exact hwritten.comma_not_mem

/-- Four terms, with white space of their own around them and between their words. -/
theorem parse_written_four :
    let texts := ["  tonnes \t DESC", "year asC ", "-region", "\u00A0country"]
    let ts : List SortTerm := [⟨"tonnes", true⟩, ⟨"year", false⟩, ⟨"region", true⟩,
      ⟨"country", false⟩]
    List.Forall₂ SortTerm.Written texts ts ∧
      parse (.one "  tonnes \t DESC,year asC ,-region,\u00A0country") = .ok ts := by
  intro texts ts
  have hwritten : List.Forall₂ SortTerm.Written texts ts := by
    refine .cons ?tonnes (.cons ?year (.cons ?region (.cons ?country .nil)))
    case tonnes =>
      have hform : SortTerm.Form ("tonnes" ++ " \t " ++ "DESC") ⟨"tonnes", true⟩ :=
        .word true (by decide) (by decide) (by decide) (by decide)
      exact ⟨"  ", _, "", by decide, by decide, hform, rfl⟩
    case year =>
      have hform : SortTerm.Form ("year" ++ " " ++ "asC") ⟨"year", false⟩ :=
        .word false (by decide) (by decide) (by decide) (by decide)
      exact ⟨"", _, " ", by decide, by decide, hform, rfl⟩
    case region => exact ⟨"", _, "", by decide, by decide, .hyphen (by decide), rfl⟩
    case country =>
      have hform : SortTerm.Form "country" ⟨"country", false⟩ := .bare (by decide) (by decide)
      exact ⟨"\u00A0", _, "", by decide, by decide, hform, rfl⟩
  exact ⟨hwritten, (parse_written.1 texts ts hwritten).2⟩

end OrderSpec

end QueryGate
