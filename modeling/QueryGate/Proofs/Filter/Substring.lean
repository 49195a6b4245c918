import QueryGate.Proofs.Filter.Guarantee
import QueryGate.Proofs.Json.KeyOrder

set_option relaxedAutoImplicit false
set_option autoImplicit false

/-!
# Texts that are looked for

A text that is looked for inside a column is handed over as a pattern: the text between two signs
that stand for any sequence. What holds the text matches the pattern. The converse is true of texts
without signs of the pattern language, and of no other text.

## Main definitions

* `QueryGate.Sql.Like` — a text matches a pattern.
* `QueryGate.Sql.IsPlain` — texts without the signs of patterns.

## Main results

* `QueryGate.Sql.like_around_iff` — what matches a pattern between two signs for any sequence.
* `QueryGate.Sql.like_around_iff_infix_iff` — such a pattern means its text when that is plain.
* `QueryGate.contains_means_infix_iff` — which texts are looked for as they are written.
* `QueryGate.not_contains_means_infix_underscore` — not all of them are.
-/

namespace QueryGate

open Outcome

namespace Sql

/-! ## Patterns -/

/-- A text matches a pattern: a percent sign stands for any sequence, an underscore for any one
character, and every other character for itself. -/
inductive Like : List Char → List Char → Prop
  | nil : Like [] []
  | sequence {p v : List Char} (u : List Char) (h : Like p v) : Like ('%' :: p) (u ++ v)
  | single {p v : List Char} (c : Char) (h : Like p v) : Like ('_' :: p) (c :: v)
  | self {p v : List Char} {c : Char} (hc : c ≠ '%' ∧ c ≠ '_') (h : Like p v) :
    Like (c :: p) (c :: v)

/-- The characters that stand for themselves in a pattern. -/
def IsPlain (s : List Char) : Prop := ∀ c ∈ s, c ≠ '%' ∧ c ≠ '_'

instance (s : List Char) : Decidable (IsPlain s) := List.decidableBAll _ s

lemma like_append_iff {p q v : List Char} :
    Like (p ++ q) v ↔ ∃ v₁ v₂, v = v₁ ++ v₂ ∧ Like p v₁ ∧ Like q v₂ := by
  constructor
  · intro h
    induction p generalizing v with
    | nil => exact ⟨[], v, rfl, .nil, h⟩
    | cons c p ih =>
      cases h with
      | sequence u h =>
        obtain ⟨v₁, v₂, rfl, h₁, h₂⟩ := ih h
        exact ⟨u ++ v₁, v₂, by simp, .sequence u h₁, h₂⟩
      | single d h =>
        obtain ⟨v₁, v₂, rfl, h₁, h₂⟩ := ih h
        exact ⟨d :: v₁, v₂, rfl, .single d h₁, h₂⟩
      | self hc h =>
        obtain ⟨v₁, v₂, rfl, h₁, h₂⟩ := ih h
        exact ⟨c :: v₁, v₂, rfl, .self hc h₁, h₂⟩
  · rintro ⟨v₁, v₂, rfl, h₁, h₂⟩
    induction h₁ with
    | nil => exact h₂
    | sequence u _ ih =>
      rw [List.append_assoc]
      exact .sequence u ih
    | single c _ ih => exact .single c ih
    | self hc _ ih => exact .self hc ih

lemma like_percent (v : List Char) : Like ['%'] v := by
  simpa using Like.sequence v .nil

/-- A pattern between two percent signs is matched by what holds a match of it. -/
theorem like_around_iff {p v : List Char} :
    Like ('%' :: (p ++ ['%'])) v ↔ ∃ w, Like p w ∧ w <:+: v := by
  rw [← List.singleton_append, like_append_iff]
  simp only [like_append_iff (p := p)]
  constructor
  · rintro ⟨before, _, rfl, -, w, after, rfl, hw, -⟩
    exact ⟨w, hw, before, after, by simp⟩
  · rintro ⟨w, hw, before, after, rfl⟩
    exact ⟨before, w ++ after, by simp, like_percent _, w, after, rfl, hw, like_percent _⟩

/-- Every text matches itself. -/
lemma like_self (s : List Char) : Like s s := by
  induction s with
  | nil => exact .nil
  | cons c s ih =>
    by_cases hpercent : c = '%'
    · subst hpercent
      exact .sequence ['%'] ih
    · by_cases hunderscore : c = '_'
      · subst hunderscore
        exact .single '_' ih
      · exact .self ⟨hpercent, hunderscore⟩ ih

lemma like_iff_eq_of_isPlain {s v : List Char} (hs : IsPlain s) : Like s v ↔ v = s := by
  refine ⟨fun h => ?_, fun h => h ▸ like_self s⟩
  induction h with
  | nil => rfl
  | sequence u _ _ => exact absurd rfl (hs '%' List.mem_cons_self).1
  | single c _ _ => exact absurd rfl (hs '_' List.mem_cons_self).2
  | self _ _ ih => rw [ih fun c hc => hs c (List.mem_cons_of_mem _ hc)]

/-- A match of a pattern that holds none of its signs: nothing in the place of a percent sign, a
letter in that of an underscore. -/
def plainMatch (s : List Char) : List Char :=
  (s.filter (· ≠ '%')).map fun c => if c = '_' then 'x' else c

lemma isPlain_plainMatch (s : List Char) : IsPlain (plainMatch s) := by
  intro c hc
  obtain ⟨d, hd, rfl⟩ := List.mem_map.mp hc
  have hpercent : d ≠ '%' := by simpa using (List.mem_filter.mp hd).2
  by_cases hunderscore : d = '_'
  · rw [if_pos hunderscore]
    decide
  · rw [if_neg hunderscore]
    exact ⟨hpercent, hunderscore⟩

lemma like_plainMatch (s : List Char) : Like s (plainMatch s) := by
  induction s with
  | nil => exact .nil
  | cons c s ih =>
    by_cases hpercent : c = '%'
    · subst hpercent
      exact .sequence [] ih
    · have hkept : plainMatch (c :: s) = (if c = '_' then 'x' else c) :: plainMatch s := by
        simp [plainMatch, hpercent]
      rw [hkept]
      by_cases hunderscore : c = '_'
      · subst hunderscore
        exact .single 'x' ih
      · rw [if_neg hunderscore]
        exact .self ⟨hpercent, hunderscore⟩ ih

/-- **A pattern between two percent signs means what holds its text exactly when that is plain.** -/
theorem like_around_iff_infix_iff {s : List Char} :
    (∀ v, Like ('%' :: (s ++ ['%'])) v ↔ s <:+: v) ↔ IsPlain s := by
  simp only [like_around_iff]
  constructor
  · intro hmeans c hc
    -- What a sign stands for may be without it, and does not hold the text then.
    have hheld := (hmeans (plainMatch s)).mp ⟨_, like_plainMatch s, List.infix_refl _⟩
    exact isPlain_plainMatch s c (hheld.subset hc)
  · intro hs v
    simp only [like_iff_eq_of_isPlain hs, exists_eq_left]

end Sql

/-! ## Operands -/

lemma Json.BareText.isPlain {cs : List Char} (h : Json.BareText cs) : Sql.IsPlain cs := by
  intro c hc
  have hbare := h c hc
  constructor <;> rintro rfl <;> exact absurd hbare (by decide)

/-- What an operand is written out as is plain, except for texts that are not. -/
lemma Literal.Written.isPlain_display_iff {operand : Json} {l : Literal} (h : Written operand l) :
    Sql.IsPlain l.display.toList ↔ ∀ s, operand = .str s → Sql.IsPlain s.toList := by
  cases h with
  | text h => simp [display]
  | bool b =>
    have hbare : Json.BareText (Literal.bool b).display.toList := by cases b <;> decide
    exact iff_of_true hbare.isPlain nofun
  | integer h => exact iff_of_true (Json.bareText_toString _).isPlain nofun
  | large h => exact iff_of_true (Json.bareText_plain _).isPlain nofun
  | float x => exact iff_of_true (Json.bareText_plain x).isPlain nofun

/-- The operand of an operator that looks for a text is written for the text that it looks for. -/
lemma Condition.Written.exists_contains {operand : Json} {c : Condition}
    (h : Written "contains" operand c) :
    ∃ l, Literal.Written operand l ∧ c = .contains l.display := by
  generalize hword : "contains" = word at h
  cases h with
  | contains h => exact ⟨_, h, rfl⟩
  | compare op h => cases op <;> exact absurd hword (by decide)
  | eq _ | inSet _ | between _ _ => exact absurd hword (by decide)

lemma Condition.AllWritten.of_obj {ops : Json.Members} {conditions : List Condition}
    (h : AllWritten (.obj ops) conditions) :
    List.Forall₂ (fun m c => Written (Text.lower m.1) m.2 c) ops conditions := by
  cases h with
  | scalar h => cases h
  | operations _ h => exact h

/-- A text that is looked for stands in a condition on its column. -/
lemma exists_contains_of_readFilters {members ops : Json.Members} {filters : List ColumnFilter}
    {name op : String} {operand : Json} (h : readFilters members = .ok filters)
    (hmember : (name, .obj ops) ∈ members) (hoperand : (op, operand) ∈ ops)
    (hword : Text.lower op = "contains") :
    ∃ f ∈ filters, f.column.text = name ∧
      ∃ l, Literal.Written operand l ∧ .contains l.display ∈ f.conditions := by
  obtain ⟨f, hf, hwritten⟩ := exists_of_forall₂ (readFilters_eq_ok_iff.mp h) hmember
  refine ⟨f, hf, hwritten.column, ?_⟩
  obtain ⟨c, hc, hcondition⟩ := exists_of_forall₂ hwritten.conditions.of_obj hoperand
  rw [hword] at hcondition
  obtain ⟨l, hl, rfl⟩ := hcondition.exists_contains
  exact ⟨l, hl, hc⟩

/-- **A text is looked for as it is written exactly when it is plain.** Whatever is looked for, what
holds it is found. Nothing else is found when it is a number, a truth value or a plain text; where
it is a text with a sign of patterns, something else is.

**Proof sketch.** The condition that the operator becomes is found among those of its column, with
the text of its operand between two percent signs (`exists_contains_of_readFilters`). Such a pattern
is matched by what holds a match of the text (`Sql.like_around_iff`). A plain text is matched by
itself alone; a sign of patterns in it is matched by something that is not the sign, and this does
not hold the text (`Sql.like_around_iff_infix_iff`). Numbers and truth values have no such sign
(`Literal.Written.isPlain_display_iff`). -/
theorem contains_means_infix_iff {members ops : Json.Members} {filters : List ColumnFilter}
    {name op : String} {operand : Json} (h : readFilters members = .ok filters)
    (hmember : (name, .obj ops) ∈ members) (hoperand : (op, operand) ∈ ops)
    (hword : Text.lower op = "contains") :
    ∃ f ∈ filters, f.column.text = name ∧ ∃ l pattern, Literal.Written operand l ∧
      .contains l.display ∈ f.conditions ∧
      (Condition.contains l.display).literals = [.text pattern] ∧
      (∀ v : String, l.display.toList <:+: v.toList → Sql.Like pattern.toList v.toList) ∧
      ((∀ v : String, Sql.Like pattern.toList v.toList ↔ l.display.toList <:+: v.toList) ↔
        ∀ s, operand = .str s → Sql.IsPlain s.toList) := by
  obtain ⟨f, hf, hcolumn, l, hl, hcondition⟩ :=
    exists_contains_of_readFilters h hmember hoperand hword
  have hpattern : ("%" ++ l.display ++ "%").toList = '%' :: (l.display.toList ++ ['%']) := by simp
  refine ⟨f, hf, hcolumn, l, _, hl, hcondition, rfl, fun v hv => ?_, ?_⟩
  · rw [hpattern, Sql.like_around_iff]
    exact ⟨_, Sql.like_self _, hv⟩
  · rw [← hl.isPlain_display_iff, ← Sql.like_around_iff_infix_iff, hpattern]
    exact ⟨fun hmeans v => by simpa using hmeans (String.ofList v), fun hmeans v => hmeans v.toList⟩

/-- Cities are looked for by a part of their name. -/
theorem contains_means_infix_burg :
    let members := [("city_name", .obj [("Contains", .str "burg")])]
    ∃ filters, readFilters members = .ok filters ∧ ∃ f ∈ filters, ∃ pattern,
      (∃ c ∈ f.conditions, c.literals = [.text pattern]) ∧
        ∀ v : String, Sql.Like pattern.toList v.toList ↔ "burg".toList <:+: v.toList := by
  intro members
  have hword : Text.lower "Contains" = "contains" := by decide +kernel
  have hread : readFilters members =
      .ok [⟨⟨"city_name", by decide⟩, [.contains "burg"]⟩] := by
    have hburg : Harmless "burg" := checkText_eq_ok_iff.mp rfl
    have hcondition : Condition.Written (Text.lower "Contains") (.str "burg") (.contains "burg") :=
      hword ▸ .contains (.text hburg)
    exact readFilters_eq_ok_iff.mpr (.cons ⟨rfl, .operations nofun (.cons hcondition .nil)⟩ .nil)
  obtain ⟨f, hf, -, l, pattern, hl, hcondition, hliterals, -, hmeans⟩ :=
    contains_means_infix_iff hread List.mem_cons_self List.mem_cons_self hword
  refine ⟨_, hread, f, hf, pattern, ⟨_, hcondition, hliterals⟩, ?_⟩
  cases hl with
  | text _ =>
    refine hmeans.mpr fun s hs => ?_
    obtain rfl := Json.str.inj hs
    decide

/-- Where an underscore is looked for, any other character is found in its place. -/
theorem not_contains_means_infix_underscore :
    readFilters [("city_name", .obj [("contains", .str "a_b")])] =
        .ok [⟨⟨"city_name", by decide⟩, [.contains "a_b"]⟩] ∧
      (Condition.contains "a_b").literals = [.text "%a_b%"] ∧
      Sql.Like "%a_b%".toList "axb".toList ∧ ¬ "a_b".toList <:+: "axb".toList := by
  refine ⟨rfl, rfl, ?_, by decide⟩
  have hmatch : Sql.Like ['a', '_', 'b'] ['a', 'x', 'b'] :=
    .self (by decide) (.single 'x' (.self (by decide) .nil))
  exact Sql.like_around_iff.mpr ⟨_, hmatch, List.infix_refl _⟩

end QueryGate
