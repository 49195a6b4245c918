import Mathlib.Data.List.Basic
import QueryGate.Proofs.Alphabet
import QueryGate.Proofs.Sql.Shown
import QueryGate.Proofs.Text.Fields

set_option relaxedAutoImplicit false
set_option autoImplicit false

/-!
# What statements are made of

Every piece of a generated statement is a word from a fixed list, a quoted name over the alphabet
of names, a place for a literal, or one of the few numbers that the request asks for.

## Main definitions

* `QueryGate.Sql.templateWords` — the fixed words of all generated statements.
* `QueryGate.Sql.Drawn` — text made of these words, of sound names, of given numbers and, where
  they are allowed, of places.

## Main results

* `QueryGate.Query.drawn_fragment`, `QueryGate.Comparison.drawn_fragment`,
  `QueryGate.drawn_distinctText` — every generated text is so made.
* `QueryGate.Sql.Drawn.not_mem_chars` — without places there is no question mark.
* `QueryGate.Sql.Drawn.chars_eq_nil_iff` — a text without characters has no pieces.

## Implementation notes

The list of words is written out and not collected from the builders: a builder that writes
another word fails its lemma here.
-/

namespace QueryGate

namespace Sql

/-! ## Joined texts -/

/-- No text between separators. -/
@[simp] lemma sepBy_nil (s : String) : sepBy s [] = [] := rfl

/-- One text between separators. -/
@[simp] lemma sepBy_singleton (s : String) (part : Sql) : sepBy s [part] = part := by
  simp [sepBy]

/-- A separator stands between the first two texts. -/
lemma sepBy_cons_cons (s : String) (part next : Sql) (rest : List Sql) :
    sepBy s (part :: next :: rest) = part ++ word s ++ sepBy s (next :: rest) := by
  simp [sepBy]

/-- The characters of a text. -/
def chars (sql : Sql) : List Char := sql.flatMap fun p => p.text.toList

/-- The characters of a text are those of its pieces. -/
lemma toList_render (sql : Sql) : sql.render.toList = sql.chars := by
  rw [render, String.toList_join, List.flatMap_map, chars]

/-- The characters of two texts one after the other. -/
@[simp] lemma chars_append (a b : Sql) : chars (a ++ b) = chars a ++ chars b := by
  simp [chars]

/-- The characters of a first piece and of the rest. -/
lemma chars_cons (p : Piece) (sql : Sql) : chars (p :: sql) = p.text.toList ++ chars sql := by
  simp [chars]

lemma render_append (x y : Sql) : render (x ++ y) = x.render ++ y.render := by
  rw [← String.toList_inj, String.toList_append, toList_render, toList_render, toList_render,
    chars_append]

lemma render_word (words : String) : (word words).render = words := by
  simp [render, word, Piece.text]

lemma render_quoted (name : String) : render [.quoted name] = "\"" ++ name ++ "\"" := by
  simp [render, Piece.text]

lemma render_column (c : Ident) : (column c).render = "\"" ++ c.text ++ "\"" :=
  render_quoted c.text

lemma render_sepBy (s : String) (parts : List Sql) :
    (sepBy s parts).render = Text.joined s (parts.map render) := by
  induction parts with
  | nil => rfl
  | cons p parts ih =>
    cases parts with
    | nil => simp [Text.joined]
    | cons next rest =>
      rw [sepBy_cons_cons, render_append, render_append, render_word, ih]
      simp [Text.joined]

lemma render_sepBy_quoted (s : String) (parts : List String) :
    (sepBy s (parts.map fun part => [.quoted part])).render =
      Text.joined s (parts.map fun part => "\"" ++ part ++ "\"") := by
  rw [render_sepBy, List.map_map, Function.comp_def, funext render_quoted]

/-! ## Pieces drawn from the template -/

/-- The fixed words of the generated statements. -/
def templateWords : List String := [
  -- the clauses of a query
  "SELECT ", "*", ", ", " FROM ", ".", " WHERE ", " GROUP BY ", " HAVING ", " ORDER BY ", " DESC",
  " ASC", " LIMIT ", " OFFSET ",
  -- conditions
  " AND ", " = ", " IS NULL", " IN (", ")", " BETWEEN ", " >= ", " <= ", " > ", " < ", "CAST(",
  " AS VARCHAR) LIKE ",
  -- aggregation
  "SUM(", "AVG(", "COUNT(", "COUNT(DISTINCT ", "MIN(", "MAX(", "STDDEV_SAMP(", "VAR_SAMP(", " AS ",
  -- the comparison of two years
  "WITH yearly AS (SELECT ", " AS entity_key, ", " AS period, SUM(", ") AS amount FROM ",
  ") GROUP BY ", ") ", "SELECT b.entity_key AS ", ", b.amount AS ", ", c.amount AS ",
  ", b.amount - c.amount AS ",
  ", CAST(b.amount - c.amount AS DOUBLE) / NULLIF(b.amount, 0) * 100 AS ",
  " FROM yearly b JOIN yearly c ON b.entity_key = c.entity_key WHERE b.period = ",
  " AND c.period = ", " NULLS LAST, ", " ASC LIMIT ",
  -- the different values of a column
  "SELECT DISTINCT ", " IS NOT NULL ORDER BY "]

/-- A piece that is a word of the template, a name over the alphabet of names, one of the given
numbers, or, where they are allowed, a place. -/
def Piece.Drawn (places : Prop) (numbers : List Nat) : Piece → Prop
  | fixed words => words ∈ templateWords
  | quoted name => ∀ c ∈ name.toList, isNameChar c = true
  | slot => places
  | number n => n ∈ numbers

/-- Text that is made of such pieces only. -/
def Drawn (places : Prop) (numbers : List Nat) (sql : Sql) : Prop :=
  ∀ p ∈ sql, p.Drawn places numbers

variable {places : Prop} {numbers : List Nat}

/-- The empty text. -/
@[simp] lemma drawn_nil : Drawn places numbers [] := fun _ h => absurd h List.not_mem_nil

/-- Two texts one after the other. -/
@[simp] lemma drawn_append {a b : Sql} :
    Drawn places numbers (a ++ b) ↔ Drawn places numbers a ∧ Drawn places numbers b := by
  simp only [Drawn, List.mem_append, or_imp, forall_and]

/-- A single piece. -/
lemma drawn_singleton {p : Piece} : Drawn places numbers [p] ↔ p.Drawn places numbers := by
  simp [Drawn]

/-- A place, where it is allowed. -/
@[simp] lemma drawn_slot : Drawn places numbers [.slot] ↔ places := drawn_singleton

/-- A given number. -/
lemma drawn_number {n : Nat} (h : n ∈ numbers) : Drawn places numbers [.number n] :=
  drawn_singleton.mpr h

/-- Fixed words have to be of the template. -/
@[simp] lemma drawn_word {w : String} : Drawn places numbers (word w) ↔ w ∈ templateWords :=
  drawn_singleton

/-- A name of one's own. -/
lemma drawn_quoted {name : String} :
    Drawn places numbers [.quoted name] ↔ name.toList.all isNameChar = true :=
  drawn_singleton.trans List.all_eq_true.symm

/-- A column. -/
@[simp] lemma drawn_column (c : Ident) : Drawn places numbers (column c) :=
  drawn_singleton.mpr fun _ hx => c.isNameChar_of_mem hx

/-- Texts joined by a word of the template. -/
lemma drawn_sepBy {s : String} (hs : s ∈ templateWords) :
    ∀ {parts : List Sql}, (∀ p ∈ parts, Drawn places numbers p) →
      Drawn places numbers (sepBy s parts)
  | [], _ => drawn_nil
  | [p], h => by rw [sepBy_singleton]; exact h p List.mem_cons_self
  | p :: next :: rest, h => by
    rw [sepBy_cons_cons, drawn_append, drawn_append]
    have ih := drawn_sepBy hs fun q hq => h q (List.mem_cons_of_mem _ hq)
    exact ⟨⟨h p List.mem_cons_self, drawn_word.mpr hs⟩, ih⟩

/-- Columns with commas between them. -/
@[simp] lemma drawn_columns (cs : List Ident) : Drawn places numbers (columns cs) := by
  refine drawn_sepBy (by decide) fun p hp => ?_
  obtain ⟨c, -, rfl⟩ := List.mem_map.mp hp
  exact drawn_column c

/-- Names of one's own, joined by a word of the template. -/
lemma drawn_sepBy_quoted {s : String} (hs : s ∈ templateWords) {parts : List String}
    (h : ∀ part ∈ parts, part.toList.all isNameChar = true) :
    Drawn places numbers (sepBy s (parts.map fun part => [.quoted part])) := by
  refine drawn_sepBy hs fun p hp => ?_
  obtain ⟨part, hpart, rfl⟩ := List.mem_map.mp hp
  exact drawn_quoted.mpr (h part hpart)

/-- A table. Cutting its name at the dots brings in no new characters. -/
@[simp] lemma drawn_tableRef (table : Ident) : Drawn places numbers (tableRef table.text) :=
  drawn_sepBy_quoted (by decide) fun _ hpart => List.all_eq_true.mpr fun _ hc =>
    table.isNameChar_of_mem (Text.mem_of_mem_fields hpart hc)

/-- Places with commas between them. -/
@[simp] lemma drawn_slots (n : Nat) : Drawn True numbers (slots n) := by
  refine drawn_sepBy (by decide) fun p hp => ?_
  rw [List.eq_of_mem_replicate hp]
  exact drawn_slot.mpr trivial

/-- A condition on a target. -/
lemma drawn_condition {target : Sql} (h : Drawn True numbers target) (c : Condition) :
    Drawn True numbers (c.sql target) := by
  cases c <;> simp only [Condition.sql, drawn_append, drawn_word, drawn_slot, drawn_slots, h,
    and_true, true_and]
  case compare op _ => cases op <;> decide
  all_goals decide

/-- All conditions of some filters. -/
lemma drawn_conditions {target : Ident → Sql} (h : ∀ c, Drawn True numbers (target c))
    (filters : List ColumnFilter) : Drawn True numbers (conditions target filters).sql := by
  refine drawn_sepBy (by decide) fun p hp => ?_
  obtain ⟨f, -, hp⟩ := List.mem_flatMap.mp hp
  obtain ⟨c, -, rfl⟩ := List.mem_map.mp hp
  exact drawn_condition (h f.column) c

/-- A clause that may be left out. -/
lemma drawn_clause {opening : String} (ho : opening ∈ templateWords) {body : Sql}
    (h : Drawn places numbers body) : Drawn places numbers (clause opening body) := by
  unfold clause
  split_ifs
  · exact drawn_nil
  · exact drawn_append.mpr ⟨drawn_word.mpr ho, h⟩

/-- The sort order. -/
@[simp] lemma drawn_sortKeys (keys : List SortKey) : Drawn places numbers (sortKeys keys) := by
  refine drawn_sepBy (by decide) fun p hp => ?_
  obtain ⟨k, -, rfl⟩ := List.mem_map.mp hp
  refine drawn_append.mpr ⟨drawn_column _, drawn_word.mpr ?_⟩
  cases k.descending <;> decide

/-! ## Texts without places, texts without pieces -/

/-- A piece that is no place holds no question mark. -/
lemma Piece.Drawn.not_mem : ∀ {p : Piece}, p.Drawn False numbers → '?' ∉ p.text.toList
  | .fixed w, h => by
    have hall : ∀ w ∈ templateWords, '?' ∉ w.toList := by decide +kernel
    exact hall w h
  | .quoted name, h => by
    have hname : '?' ∉ name.toList := fun hmem => absurd (h '?' hmem) (by decide)
    simp [text, hname]
  | .slot, h => h.elim
  | .number n, _ => not_mem_toString n (by decide)

/-- **Without places there is no question mark.** -/
theorem Drawn.not_mem_chars {sql : Sql} (h : Drawn False numbers sql) : '?' ∉ sql.chars := by
  intro hmem
  obtain ⟨p, hp, hc⟩ := List.mem_flatMap.mp hmem
  exact (h p hp).not_mem hc

/-- A piece has at least one character. -/
lemma Piece.Drawn.text_ne_nil : ∀ {p : Piece}, p.Drawn places numbers → p.text.toList ≠ []
  | .fixed w, h => by
    have hall : ∀ w ∈ templateWords, w.toList ≠ [] := by decide +kernel
    exact hall w h
  | .quoted name, _ => by simp [text]
  | .slot, _ => by decide
  | .number n, _ => by simp [text, Nat.toString_eq_repr, Nat.toList_repr]

/-- A text without characters has no pieces. -/
theorem Drawn.chars_eq_nil_iff : ∀ {sql : Sql}, Drawn places numbers sql →
    (sql.chars = [] ↔ sql = [])
  | [], _ => ⟨fun _ => rfl, fun _ => rfl⟩
  | p :: sql, h => by
    have hp := (h p List.mem_cons_self).text_ne_nil
    rw [chars_cons, List.append_eq_nil_iff]
    exact ⟨fun hnil => absurd hnil.1 hp, fun hnil => absurd hnil (List.cons_ne_nil p sql)⟩

end Sql

open Sql

variable {places : Prop} {numbers : List Nat}

/-! ## The builders -/

namespace Aggregate

/-- The value of an aggregate. -/
lemma drawn_expression (a : Aggregate) : Drawn places numbers a.expression := by
  simp only [expression, Aggregator.apply, drawn_append, drawn_column, and_true]
  refine ⟨drawn_word.mpr ?_, drawn_word.mpr (by decide)⟩
  cases a.func <;> decide

/-- An aggregate as it is shown. -/
lemma drawn_projection (a : Aggregate) : Drawn places numbers a.projection := by
  simp only [projection, drawn_append, drawn_column, and_true]
  exact ⟨a.drawn_expression, drawn_word.mpr (by decide)⟩

end Aggregate

namespace Plan

/-- What a name of a plan stands for. -/
lemma drawn_expression (p : Plan) (c : Ident) : Drawn places numbers (p.expression c) := by
  unfold expression
  split
  · exact Aggregate.drawn_expression _
  · exact drawn_column c

/-- The items that a plan shows. -/
lemma drawn_projection (p : Plan) : Drawn places numbers (sepBy ", " p.projection) := by
  refine drawn_sepBy (by decide) fun q hq => ?_
  rcases List.mem_append.mp hq with hq | hq
  · obtain ⟨c, -, rfl⟩ := List.mem_map.mp hq
    exact drawn_column c
  · obtain ⟨a, -, rfl⟩ := List.mem_map.mp hq
    exact a.drawn_projection

end Plan

namespace Query

/-- What a query shows has no places. -/
lemma drawn_projection {q : Query} {s : Shown} (h : q.shown = .ok s) :
    Drawn places numbers s.projection := by
  rcases shown_eq_ok h with ⟨-, -, rfl⟩ | ⟨-, p, -, rfl⟩
  · dsimp only
    split_ifs
    · exact drawn_word.mpr (by decide)
    · exact drawn_columns _
  · exact p.drawn_projection

/-- The conditions on groups of a query. -/
lemma drawn_having {q : Query} {s : Shown} (h : q.shown = .ok s) :
    Drawn True numbers s.having.sql := by
  rcases shown_eq_ok h with ⟨-, -, rfl⟩ | ⟨-, p, -, rfl⟩
  · exact drawn_nil
  · exact drawn_conditions p.drawn_expression _

/-- The end of a query, which bounds the rows. -/
def bounds (q : Query) : Sql :=
  word " LIMIT " ++ [.number q.limit] ++
    if q.offset = 0 then [] else word " OFFSET " ++ [.number q.offset]

/-- The end of a query holds its limit and its offset. -/
lemma drawn_bounds (q : Query) : Drawn places [q.limit, q.offset] q.bounds := by
  refine drawn_append.mpr ⟨drawn_append.mpr ⟨drawn_word.mpr (by decide),
    drawn_number (by simp)⟩, ?_⟩
  split_ifs
  · exact drawn_nil
  · exact drawn_append.mpr ⟨drawn_word.mpr (by decide), drawn_number (by simp)⟩

/-- The text of a query, clause by clause. -/
lemma fragment_sql (table : Ident) (q : Query) (s : Shown) :
    (q.fragment table s).sql =
      word "SELECT " ++ s.projection ++ word " FROM " ++ tableRef table.text ++
        clause " WHERE " (conditions column q.filters).sql ++
        clause " GROUP BY " (columns q.groupBy) ++ clause " HAVING " s.having.sql ++
        clause " ORDER BY " (sortKeys s.orderBy) ++ q.bounds := by
  simp only [fragment, rowConditions, bounds, List.append_assoc]

/-- The text of a query is made of template words, names, places, its limit and its offset. -/
theorem drawn_fragment (table : Ident) {q : Query} {s : Shown} (h : q.shown = .ok s) :
    Drawn True [q.limit, q.offset] (q.fragment table s).sql := by
  have hrows : Drawn True [q.limit, q.offset] (conditions column q.filters).sql :=
    drawn_conditions drawn_column q.filters
  simp only [fragment_sql, drawn_append, drawn_word, drawn_tableRef, drawn_projection h,
    drawn_bounds, and_true]
  exact ⟨⟨⟨⟨⟨by decide, by decide⟩, drawn_clause (by decide) hrows⟩,
    drawn_clause (by decide) (drawn_columns _)⟩, drawn_clause (by decide) (drawn_having h)⟩,
    drawn_clause (by decide) (drawn_sortKeys _)⟩

end Query

namespace Comparison

/-- A comparison up to its conditions on rows. -/
def opening (table : Ident) (c : Comparison) : Sql :=
  word "WITH yearly AS (SELECT " ++ column c.keyColumn ++ word " AS entity_key, " ++
    column c.yearColumn ++ word " AS period, SUM(" ++ column c.valueColumn ++
    word ") AS amount FROM " ++ tableRef table.text ++ word " WHERE "

/-- A comparison between its condition on the year and its condition on the first year. -/
def pairing (c : Comparison) : Sql :=
  let named := fun (words name : String) => word words ++ [Piece.quoted name]
  word ") GROUP BY " ++ column c.keyColumn ++ word ", " ++ column c.yearColumn ++ word ") " ++
    named "SELECT b.entity_key AS " "key" ++ named ", b.amount AS " "base" ++
    named ", c.amount AS " "compare" ++ named ", b.amount - c.amount AS " "delta" ++
    named ", CAST(b.amount - c.amount AS DOUBLE) / NULLIF(b.amount, 0) * 100 AS " "pct" ++
    word " FROM yearly b JOIN yearly c ON b.entity_key = c.entity_key WHERE b.period = "

/-- A comparison after its condition on the second year. -/
def ranking (c : Comparison) : Sql :=
  let named := fun (words name : String) => word words ++ [Piece.quoted name]
  named " ORDER BY " "delta" ++
    word (match c.direction with | .drop => " DESC" | .rise => " ASC") ++
    named " NULLS LAST, " "key" ++ word " ASC LIMIT " ++ [.number c.topCount]

/-- The text of a comparison, part by part. -/
lemma fragment_sql (table : Ident) (c : Comparison) :
    (c.fragment table).sql =
      c.opening table ++
        (if (conditions column c.filters).sql.isEmpty then []
          else (conditions column c.filters).sql ++ word " AND ") ++
        (column c.yearColumn ++ word " IN (") ++ slots 2 ++ c.pairing ++ [.slot] ++
        word " AND c.period = " ++ [.slot] ++ c.ranking := by
  unfold fragment opening pairing ranking rowConditions
  cases c.direction <;> simp only [List.append_assoc]

/-- The opening of a comparison has no places. -/
lemma drawn_opening (table : Ident) (c : Comparison) : Drawn places numbers (c.opening table) := by
  simp only [opening, drawn_append, drawn_word, drawn_column, drawn_tableRef, and_true]
  decide

/-- The pairing of a comparison has no places. -/
lemma drawn_pairing (c : Comparison) : Drawn places numbers c.pairing := by
  simp only [pairing, drawn_append, drawn_word, drawn_column, drawn_quoted, and_true]
  decide +kernel

/-- The ranking of a comparison has no places, and holds its number of entries. -/
lemma drawn_ranking (c : Comparison) : Drawn places [c.topCount] c.ranking := by
  have hnumber : Drawn places [c.topCount] [.number c.topCount] := drawn_number (by simp)
  simp only [ranking, drawn_append, drawn_word, drawn_quoted, hnumber, and_true]
  cases c.direction <;> decide +kernel

/-- The text of a comparison is made of template words, names, places and its number of
entries. -/
theorem drawn_fragment (table : Ident) (c : Comparison) :
    Drawn True [c.topCount] (c.fragment table).sql := by
  have hrows : Drawn True [c.topCount] (if (conditions column c.filters).sql.isEmpty then []
      else (conditions column c.filters).sql ++ word " AND ") := by
    split_ifs
    · exact drawn_nil
    · exact drawn_append.mpr ⟨drawn_conditions drawn_column _, drawn_word.mpr (by decide)⟩
  simp only [fragment_sql, drawn_append, drawn_word, drawn_column, drawn_slots, drawn_slot,
    drawn_opening, drawn_pairing, drawn_ranking, hrows, and_true, true_and]
  decide

end Comparison

/-- The text for the different values of a column is made of template words and names. -/
theorem drawn_distinctText (table c : Ident) : Drawn False [] (distinctText table c) := by
  simp only [distinctText, drawn_append, drawn_word, drawn_column, drawn_tableRef, and_true]
  decide

end QueryGate
