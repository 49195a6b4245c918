import QueryGate.CommandLine
import QueryGate.Proofs.Decimal.Digits
import QueryGate.Proofs.Sql.Reordering

set_option relaxedAutoImplicit false
set_option autoImplicit false

/-!
# Limits on rows

Every statement for rows ends with a limit, and the limit is that of the service or less. A ceiling
of zero is taken from the command line like any other. Under it a query asks for no rows, and a
comparison of two years, which has to have at least one entry, has no answer at all.

## Main definitions

* `QueryGate.Sql.rowLimit?` — the limit that the end of a text sets.
* `QueryGate.QueryRequest.Limited`, `QueryGate.ComparisonRequest.Limited` — a request that is
  answered, and with no more rows than the service allows.

## Main results

* `QueryGate.Query.rowLimit?_fragment`, `QueryGate.Comparison.rowLimit?_fragment` — the limits that
  generated texts set.
* `QueryGate.rowLimit?_distinctText` — statements for different values set no limit.
* `QueryGate.Arguments.rowsLimited_iff` — which requests are limited under the settings that
  arguments stand for.
-/

namespace QueryGate

open Sql Outcome

/-! ## The end of a text -/

/-- The limit on rows that the end of a text sets: the number behind the word, which only an offset
may follow. -/
def Sql.rowLimit? (text : String) : Option Nat :=
  match (Text.fields ' ' text).reverse with
  | n :: "LIMIT" :: _ => Decimal.natural? n.toList
  | _ :: "OFFSET" :: n :: "LIMIT" :: _ => Decimal.natural? n.toList
  | _ => none

/-- The parts of a text that ends with a word and a last part. -/
lemma Text.fields_append_last {text word : String} {cs last : List Char}
    (hword : ' ' ∉ word.toList) (hlast : ' ' ∉ last)
    (h : text.toList = cs ++ ' ' :: (word.toList ++ ' ' :: last)) :
    (fields ' ' text).reverse =
      String.ofList last :: word :: (fields ' ' (String.ofList cs)).reverse := by
  simp only [fields, h, fieldsOf_append_sep, fieldsOf_of_not_mem hword, fieldsOf_of_not_mem hlast]
  simp

/-- The digits of a number have no blank among them. -/
lemma Text.space_not_mem_toDigits (n : Nat) : ' ' ∉ Nat.toDigits 10 n :=
  not_mem_toDigits n (by decide)

/-- The characters of a word. -/
lemma Sql.chars_word (w : String) : chars (word w) = w.toList := by
  simp [chars, word, Piece.text]

/-- The characters of a number. -/
lemma Sql.chars_number (n : Nat) : chars [Piece.number n] = Nat.toDigits 10 n := by
  simp [chars, Piece.text, Nat.toString_eq_repr, Nat.toList_repr]

/-- A text that ends with a limit. -/
lemma Sql.rowLimit?_append_limit (opening : Sql) {words : String} {cs : List Char}
    (hwords : words.toList = cs ++ " LIMIT ".toList) (n : Nat) :
    rowLimit? (opening ++ word words ++ [Piece.number n]).render = some n := by
  have hend : (opening ++ word words ++ [Piece.number n]).render.toList =
      (opening.chars ++ cs) ++ ' ' :: ("LIMIT".toList ++ ' ' :: Nat.toDigits 10 n) := by
    rw [toList_render, chars_append, chars_append, chars_word, chars_number, hwords]
    simp
  rw [rowLimit?, Text.fields_append_last (by decide) (Text.space_not_mem_toDigits _) hend]
  simp [Decimal.natural?_toDigits]

/-- A text that ends with a limit and an offset. -/
lemma Sql.rowLimit?_append_offset (opening : Sql) (n m : Nat) :
    rowLimit? (opening ++ word " LIMIT " ++ [Piece.number n] ++
      (word " OFFSET " ++ [Piece.number m])).render = some n := by
  have hend : (opening ++ word " LIMIT " ++ [Piece.number n] ++
      (word " OFFSET " ++ [Piece.number m])).render.toList =
      (opening.chars ++ ' ' :: ("LIMIT".toList ++ ' ' :: Nat.toDigits 10 n)) ++
        ' ' :: ("OFFSET".toList ++ ' ' :: Nat.toDigits 10 m) := by
    rw [toList_render]
    simp only [chars_append, chars_word, chars_number]
    simp
  rw [rowLimit?, Text.fields_append_last (by decide) (Text.space_not_mem_toDigits _) hend,
    Text.fields_append_last (by decide) (Text.space_not_mem_toDigits _) String.toList_ofList]
  simp [Decimal.natural?_toDigits]

/-- The limit of a query is the one that its text sets. -/
theorem Query.rowLimit?_fragment (table : Ident) (q : Query) (s : Shown) :
    rowLimit? (q.fragment table s).sql.render = some q.limit := by
  rw [fragment_sql, bounds, ← List.append_assoc, ← List.append_assoc]
  by_cases hoffset : q.offset = 0
  · rw [if_pos hoffset, List.append_nil]
    exact rowLimit?_append_limit _ (List.nil_append _).symm _
  · rw [if_neg hoffset]
    exact rowLimit?_append_offset _ _ _

/-- The number of entries of a comparison is the limit that its text sets. -/
theorem Comparison.rowLimit?_fragment (table : Ident) (c : Comparison) :
    rowLimit? (c.fragment table).sql.render = some c.topCount := by
  have hwords : " ASC LIMIT ".toList = " ASC".toList ++ " LIMIT ".toList := by decide
  rw [fragment_sql, ranking, ← List.append_assoc, ← List.append_assoc]
  exact rowLimit?_append_limit _ hwords _

/-- The text for the different values of a column sets no limit on rows: it ends with the column
that they are sorted by. -/
lemma rowLimit?_distinctText (table c : Ident) :
    Sql.rowLimit? (distinctText table c).render = none := by
  have hcolumn : (column c).chars = '"' :: (c.text.toList ++ ['"']) := by
    simp [chars, column, Piece.text]
  have hspace : ' ' ∉ (column c).chars := by
    rw [hcolumn, List.mem_cons, List.mem_append, List.mem_singleton, not_or, not_or]
    refine ⟨by decide, fun hmem => ?_, by decide⟩
    exact absurd (c.isNameChar_of_mem hmem) (by decide)
  have hend : (distinctText table c).render.toList =
      (word "SELECT DISTINCT " ++ column c ++ word " FROM " ++ tableRef table.text ++
        word " WHERE " ++ column c ++ word " IS NOT NULL ORDER").chars ++
        ' ' :: ("BY".toList ++ ' ' :: (column c).chars) := by
    rw [toList_render]
    simp [distinctText, chars_word]
  rw [rowLimit?, Text.fields_append_last (by decide) hspace hend]
  rfl

/-- The statement of a query sets a limit on rows. -/
lemma Query.rowLimit?_statement {table : Ident} {reader : Reader} {q : Query} {st : Statement}
    (h : q.statement table reader = .ok st) : (Sql.rowLimit? st.text).isSome = true := by
  obtain ⟨shown, -, rfl⟩ := statement_eq_ok h
  rw [Statement.text, rowLimit?_fragment]
  rfl

/-- The statement of a comparison sets a limit on rows. -/
lemma Comparison.rowLimit?_statement {table : Ident} {reader : Reader} {c : Comparison}
    {st : Statement} (h : c.statement table reader = .ok st) : (Sql.rowLimit? st.text).isSome = true := by
  rw [statement_eq_ok h, Statement.text, rowLimit?_fragment]
  rfl

/-! ## Requests -/

/-- A request for rows is refused as invalid or accepted, and every statement that it gets sets a
limit within that of the service. -/
structure QueryRequest.Limited (limits : Limits) (r : QueryRequest) : Prop where
  /-- The request is refused as invalid, or it stands for a query. -/
  answered : (∃ refusal, r.check limits = .error refusal ∧ refusal.failure.code = .validation) ∨
    ∃ q, r.check limits = .ok q
  /-- Every statement sets a limit, which is within that of the service. -/
  limit : ∀ table reader st, r.Builds limits table reader st →
    ∃ n, rowLimit? st.text = some n ∧ n ≤ limits.maxRows

/-- A request to compare years is refused as invalid or accepted with a number of entries within
the limit of the service, and every statement that it gets sets a limit within it. -/
structure ComparisonRequest.Limited (limits : Limits) (r : ComparisonRequest) : Prop where
  /-- The request is refused as invalid, or it stands for a comparison. -/
  answered : (∃ refusal, r.check limits = .error refusal ∧ refusal.failure.code = .validation) ∨
    ∃ c, r.check limits = .ok (some c) ∧ 1 ≤ c.topCount ∧ c.topCount ≤ limits.maxRows
  /-- Every statement sets a limit, which is within that of the service. -/
  limit : ∀ table reader st, r.Builds limits table reader st →
    ∃ n, rowLimit? st.text = some n ∧ n ≤ limits.maxRows

/-- A number that is brought under a ceiling lies between one and the ceiling, if there is room
between them. -/
lemma bounds_of_clampTop {requested : Option Nat} {ceiling n : Nat}
    (h : clampTop requested ceiling = some n) : 1 ≤ n ∧ n ≤ ceiling := by
  unfold clampTop at h
  split_ifs at h with hceiling
  obtain rfl := Option.some.inj h
  exact ⟨Nat.le_min.mpr ⟨Nat.le_max_right _ _, hceiling⟩, Nat.min_le_right _ _⟩

/-- A number is brought under a ceiling when there is room between one and the ceiling. -/
lemma clampTop_eq_none_iff {requested : Option Nat} {ceiling : Nat} :
    clampTop requested ceiling = none ↔ ceiling < 1 := by
  unfold clampTop
  split_ifs with hceiling
  · exact ⟨nofun, fun h => absurd hceiling (Nat.not_le_of_lt h)⟩
  · exact ⟨fun _ => Nat.lt_of_not_le hceiling, fun _ => rfl⟩

/-- Requests for rows are limited, whatever the limits. -/
lemma QueryRequest.limited (limits : Limits) (r : QueryRequest) : r.Limited limits where
  answered := by
    cases r.check limits with
    | error refusal => exact Or.inl ⟨refusal, rfl, rfl⟩
    | ok q => exact Or.inr ⟨q, rfl⟩
  limit := by
    rintro table reader st ⟨q, hq, hst⟩
    obtain ⟨s, -, rfl⟩ := q.statement_eq_ok hst
    refine ⟨q.limit, q.rowLimit?_fragment table s, ?_⟩
    rw [(reads_of_check hq).limit]
    exact Nat.min_le_right _ _

namespace ComparisonRequest

variable {limits : Limits} {r : ComparisonRequest}

/-- A comparison shows between one entry and as many as the service allows. -/
lemma topCount_of_check {c : Comparison} (h : r.check limits = .ok (some c)) :
    1 ≤ c.topCount ∧ c.topCount ≤ limits.maxRows :=
  bounds_of_clampTop (map_topCount_of_check h).symm

/-- A request that is not refused has a comparison when the service allows a row. -/
lemma check_ne_none (hroom : 1 ≤ limits.maxRows) : r.check limits ≠ .ok none := by
  intro hcheck
  have hclamp := (map_topCount_of_check hcheck).symm
  exact absurd hroom (Nat.not_le_of_lt (clampTop_eq_none_iff.mp hclamp))

/-- A request to compare years is limited when it is refused, or when the service allows a row. -/
lemma limited_iff : r.Limited limits ↔
    1 ≤ limits.maxRows ∨ ∃ refusal, r.check limits = .error refusal := by
  constructor
  · intro h
    rcases h.answered with ⟨refusal, hrefusal, -⟩ | ⟨c, -, hone, htop⟩
    · exact Or.inr ⟨refusal, hrefusal⟩
    · exact Or.inl (Nat.le_trans hone htop)
  · intro h
    refine ⟨?_, ?_⟩
    · cases hcheck : r.check limits with
      | error refusal => exact Or.inl ⟨refusal, rfl, rfl⟩
      | ok checked =>
        have hroom : 1 ≤ limits.maxRows := h.resolve_right fun ⟨refusal, hrefusal⟩ =>
          absurd (hcheck.symm.trans hrefusal) nofun
        cases checked with
        | none => exact absurd hcheck (check_ne_none hroom)
        | some c => exact Or.inr ⟨c, rfl, topCount_of_check hcheck⟩
    · rintro table reader st ⟨c, hc, hst⟩
      obtain rfl := c.statement_eq_ok hst
      exact ⟨c.topCount, c.rowLimit?_fragment table, (topCount_of_check hc).2⟩

end ComparisonRequest

/-! ## Settings -/

/-- **Under the settings that arguments stand for, every request for rows is limited, and a request
to compare years is limited when the most rows of an answer are not set to zero, or when it is
refused anyway.**

**Proof sketch.** A request for rows takes the smaller of the limit asked for and the most rows of
the settings, whatever that is. A request to compare years puts the number of entries between one
and the most rows, and there is no number between one and zero: the check ends without an answer
just there (`ComparisonRequest.limited_iff`). -/
theorem Arguments.rowsLimited_iff {a : Arguments} {s : Settings} (h : a.settings? = some s) :
    (∀ r : QueryRequest, r.Limited s.limits) ∧
      ∀ r : ComparisonRequest, r.Limited s.limits ↔
        1 ≤ a.maxLimit ∨ ∃ refusal, r.check s.limits = .error refusal := by
  have hrows : s.limits.maxRows = a.maxLimit := by
    simp only [settings?, Option.bind_eq_bind, Option.bind_eq_some_iff] at h
    obtain ⟨_, -, _, -, _, -, _, -, _, -, h⟩ := h
    rw [← Option.some.inj h]
  refine ⟨fun r => r.limited s.limits, fun r => ?_⟩
  rw [← hrows]
  exact ComparisonRequest.limited_iff

/-- The request for the ten largest decreases of emissions between two years. -/
def emissionsDrop : ComparisonRequest where
  fileId := "power-country-year"
  keyColumn := "country_name"
  valueColumn := "emissions_tonnes"
  baseYear := 2019
  compareYear := 2020

/-- Under the settings that a command line without options stands for, such a request is limited. -/
theorem emissionsDrop_limited :
    CommandLine.read [] = .ok {} ∧ ∃ s, Arguments.settings? {} = some s ∧
      emissionsDrop.Limited s.limits := by
  obtain ⟨s, hs⟩ : ∃ s, Arguments.settings? {} = some s := by
    refine Option.isSome_iff_exists.mp ?_
    decide +kernel
  refine ⟨rfl, s, hs, ?_⟩
  exact ((Arguments.rowsLimited_iff hs).2 emissionsDrop).mpr (Or.inl (by decide))

/-- A command line may set the most rows of an answer to zero. Then a request that is not refused
has no answer. -/
theorem not_emissionsDrop_limited :
    CommandLine.read ["--max-limit", "0"] = .ok { maxLimit := 0 } ∧
      ∃ s, Arguments.settings? { maxLimit := 0 } = some s ∧
        emissionsDrop.check s.limits = .ok none ∧ ¬ emissionsDrop.Limited s.limits := by
  obtain ⟨s, hs, hlimits⟩ : ∃ s, Arguments.settings? { maxLimit := 0 } = some s ∧
      s.limits = { defaultRows := 0, maxRows := 0 } := by
    refine ⟨_, rfl, rfl⟩
  have hcheck : emissionsDrop.check s.limits = .ok none := by
    rw [hlimits]
    rfl
  refine ⟨rfl, s, hs, hcheck, fun h => ?_⟩
  rcases h.answered with ⟨refusal, hrefusal, -⟩ | ⟨c, hc, -⟩
  · exact absurd (hcheck.symm.trans hrefusal) nofun
  · exact absurd (hcheck.symm.trans hc) nofun

end QueryGate
