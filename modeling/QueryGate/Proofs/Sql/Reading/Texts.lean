import QueryGate.Proofs.Sql.Outputs
import QueryGate.Proofs.Sql.Reading.Query

set_option relaxedAutoImplicit false
set_option autoImplicit false
-- Running a reading goes through the words and the operators of the language.
set_option maxRecDepth 10000

/-!
# The grammar takes the texts put together here

The text of a query, of a comparison and for the different values of a column is one query to the
reader that follows the grammar, as long as no set of values in its filters is empty. So this reader
can stand in a service, and then no request fails because its text is no statement.

## Main results

* `QueryGate.Query.reads_fragment`, `QueryGate.Comparison.reads_fragment`,
  `QueryGate.reads_distinctText` — the tokens of these texts are read as a statement.
* `QueryGate.Sql.grammatical_of_reads` — a text that is read as a statement is one query.
* `QueryGate.Sql.takesBuilt_grammatical` — the grammar takes the texts put together here.
-/

namespace QueryGate

open Sql Sql.Language

variable {depth : Nat}

namespace Query

/-- What a query shows is read as items. -/
lemma reads_projection {q : Query} {s : Shown} (hs : q.shown = .ok s) (ts : List Token) :
    Reads (depth + 2) (maybeDistinct ++ .maybe [.word "TOP"] top ++ .list item)
      (tokens s.projection ++ .word "FROM" true :: ts) (some (.word "FROM" true :: ts)) := by
  rcases shown_eq_ok hs with ⟨-, -, rfl⟩ | ⟨hne, p, hp, rfl⟩
  · dsimp only
    split_ifs with hselect
    · exact reads_star ts
    · refine reads_items (by simpa using hselect) (fun part hpart => ?_) ts
      obtain ⟨c, -, rfl⟩ := List.mem_map.mp hpart
      exact isItem_name c.text
  · refine reads_items ?_ (fun part hpart => ?_) ts
    · intro hnil
      have hempty : p.aggregates = [] := List.map_eq_nil_iff.mp (List.append_eq_nil_iff.mp hnil).2
      have hsources := Plan.sources_of_build hp
      rw [hempty, List.map_nil] at hsources
      exact hne (List.map_eq_nil_iff.mp hsources.symm)
    · rcases List.mem_append.mp hpart with hpart | hpart
      · obtain ⟨c, -, rfl⟩ := List.mem_map.mp hpart
        exact isItem_name c.text
      · obtain ⟨a, -, rfl⟩ := List.mem_map.mp hpart
        exact isItem_projection a

/-- The conditions on groups of a query are an expression. -/
lemma reads_having {q : Query} {s : Shown} (hs : q.shown = .ok s) (hhaving : IsWritable q.having)
    (hne : s.having.sql ≠ []) {rest : List Token} (h : Begins ends rest) :
    Reads (depth + 3) expression (tokens s.having.sql ++ rest) (some rest) := by
  rcases shown_eq_ok hs with ⟨-, -, rfl⟩ | ⟨-, p, -, rfl⟩
  · exact absurd rfl hne
  · refine reads_conditions h (isTarget_expression p) (fun f hf => ?_) hne
    obtain ⟨g, hg, rfl⟩ := List.mem_map.mp hf
    exact hhaving g hg

/-- The tokens of a query. -/
lemma tokens_fragment (table : Ident) (q : Query) (s : Shown) : tokens (q.fragment table s).sql =
    .word "SELECT" true :: (tokens s.projection ++ .word "FROM" true ::
      (tokens (tableRef table.text) ++
        (tokens (clause " WHERE " (conditions Sql.column q.filters).sql) ++
          (tokens (clause " GROUP BY " (Sql.columns q.groupBy)) ++
            (tokens (clause " HAVING " s.having.sql) ++
              (tokens (clause " ORDER BY " (sortKeys s.orderBy)) ++ tokens q.bounds)))))) := by
  rw [fragment_sql]
  simp only [tokens_append, List.append_assoc]
  rfl

/-- **The text of a query is a statement.**

**Proof sketch.** Its clauses stand in the order in which the grammar asks for them, and each ends
where one of the later ones opens. -/
theorem reads_fragment (table : Ident) {q : Query} {s : Shown} (hfilters : IsWritable q.filters)
    (hhaving : IsWritable q.having) (hs : q.shown = .ok s) :
    Reads (depth + 6) (.part .statement) (tokens (q.fragment table s).sql) (some []) := by
  let t₅ := tokens q.bounds
  let t₄ := tokens (clause " ORDER BY " (sortKeys s.orderBy)) ++ t₅
  let t₃ := tokens (clause " HAVING " s.having.sql) ++ t₄
  let t₂ := tokens (clause " GROUP BY " (Sql.columns q.groupBy)) ++ t₃
  let t₁ := tokens (clause " WHERE " (conditions Sql.column q.filters).sql) ++ t₂
  have h₅ : Begins [.word "LIMIT" true] t₅ := .cons List.mem_cons_self
  have h₄ : Begins [.word "ORDER" true, .word "LIMIT" true] t₄ := begins_clause rfl h₅
  have h₃ : Begins [.word "HAVING" true, .word "ORDER" true, .word "LIMIT" true] t₃ :=
    begins_clause rfl h₄
  have h₂ : Begins [.word "GROUP" true, .word "HAVING" true, .word "ORDER" true,
      .word "LIMIT" true] t₂ :=
    begins_clause rfl h₃
  have h₁ : Begins (.word "WHERE" true :: _) t₁ := begins_clause rfl h₂
  have hwhere : Reads (depth + 4) maybeWhere t₁ (some t₂) :=
    reads_clause rfl (fun _ => rfl) (h₂.after?_eq_none rfl _) fun hne =>
      reads_conditions (h₂.mono (by decide)) isTarget_column hfilters hne
  have hgroup : Reads (depth + 4) (.maybe [.word "GROUP", .word "BY"] _) t₂ (some t₃) :=
    reads_clause rfl (fun _ => rfl) (h₃.after?_eq_none rfl _) fun hne =>
      reads_groups (h₃.mono (by decide)) hne
  have hhavings : Reads (depth + 4) (.maybe [.word "HAVING"] expression) t₃ (some t₄) :=
    reads_clause rfl (fun _ => rfl) (h₄.after?_eq_none rfl _) fun hne =>
      reads_having hs hhaving hne (h₄.mono (by decide))
  have horder : Reads (depth + 4) maybeOrder t₄ (some t₅) :=
    reads_clause rfl (fun _ => rfl) (h₅.after?_eq_none rfl _) fun hne => reads_sortKeys hne
  have hbounds : Reads (depth + 4) maybeBounds t₅ (some []) := by
    show Reads (depth + 4) maybeBounds (tokens q.bounds) (some [])
    unfold bounds
    split_ifs <;> exact reads_of_run 100 fun _ => rfl
  have hselect : Reads (depth + 4) Language.select (tokens s.projection ++ .word "FROM" true ::
      (tokens (tableRef table.text) ++ t₁)) (some t₄) :=
    reads_select (reads_projection hs) (h₁.mono (by decide)) hwhere hgroup (h₃.mono (by decide))
      hhavings (h₄.mono (by decide))
  have hquery := reads_statement (.inl rfl)
    (reads_query hselect (h₄.mono (by decide)) horder hbounds .nil)
  rw [tokens_fragment]
  exact hquery

end Query

/-- Texts joined by a word are some text. -/
lemma Sql.sepBy_cons_ne_nil (w : String) {p : Sql} (hp : p ≠ []) : ∀ ps : List Sql,
    sepBy w (p :: ps) ≠ []
  | [] => by rwa [sepBy_singleton]
  | q :: ps => by
    rw [sepBy_cons_cons]
    exact List.append_ne_nil_of_left_ne_nil (List.append_ne_nil_of_left_ne_nil hp _) _

/-- A further text behind others, with a word between them. -/
lemma Sql.sepBy_concat (w : String) (last : Sql) : ∀ {parts : List Sql}, (∀ p ∈ parts, p ≠ []) →
    sepBy w (parts ++ [last]) =
      (if (sepBy w parts).isEmpty then [] else sepBy w parts ++ word w) ++ last
  | [], _ => by simp
  | [p], h => by
    have hp : p ≠ [] := h p List.mem_cons_self
    simp [sepBy_cons_cons, hp]
  | p :: q :: ps, h => by
    have ih := sepBy_concat w last fun r hr => h r (List.mem_cons_of_mem p hr)
    have hq : sepBy w (q :: ps) ≠ [] :=
      sepBy_cons_ne_nil w (h q (List.mem_cons_of_mem p List.mem_cons_self)) ps
    rw [List.cons_append, List.cons_append, sepBy_cons_cons, ← List.cons_append, ih]
    simp [sepBy_cons_cons, hq]

namespace Comparison

/-- The helper of a comparison up to its table. -/
def helperItems (c : Comparison) : Sql :=
  Sql.column c.keyColumn ++ word " AS entity_key, " ++ Sql.column c.yearColumn ++
    word " AS period, SUM(" ++ Sql.column c.valueColumn ++ word ") AS amount"

/-- The filters of the helper: those of the comparison, and its years. -/
def helperFilters (c : Comparison) : List ColumnFilter :=
  c.filters ++ [⟨c.yearColumn, [.inSet [.integer c.baseYear, .integer c.compareYear]]⟩]

/-- A comparison behind its helper. -/
def pairs (c : Comparison) : Sql :=
  let named := fun (words name : String) => word words ++ [Piece.quoted name]
  named "SELECT b.entity_key AS " "key" ++ named ", b.amount AS " "base" ++
    named ", c.amount AS " "compare" ++ named ", b.amount - c.amount AS " "delta" ++
    named ", CAST(b.amount - c.amount AS DOUBLE) / NULLIF(b.amount, 0) * 100 AS " "pct" ++
    word " FROM yearly b JOIN yearly c ON b.entity_key = c.entity_key WHERE b.period = " ++
    [.slot] ++ word " AND c.period = " ++ [.slot] ++ c.ranking

/-- The conditions of the helper are those of the comparison, if there are any, and the one on its
years. -/
lemma helperFilters_sql (c : Comparison) : (conditions Sql.column c.helperFilters).sql =
    (if (conditions Sql.column c.filters).sql.isEmpty then []
      else (conditions Sql.column c.filters).sql ++ word " AND ") ++
    (Sql.column c.yearColumn ++ word " IN (" ++ slots 2 ++ word ")") := by
  have hne : ∀ p ∈ c.filters.flatMap fun f =>
      f.conditions.map (Condition.sql (Sql.column f.column)), p ≠ [] := by
    intro p hp
    obtain ⟨f, -, hp⟩ := List.mem_flatMap.mp hp
    obtain ⟨condition, -, rfl⟩ := List.mem_map.mp hp
    cases condition <;> exact List.cons_ne_nil _ _
  rw [conditions, helperFilters, List.flatMap_append]
  exact sepBy_concat " AND " _ hne

/-- The tokens of a comparison. -/
lemma tokens_fragment (table : Ident) (c : Comparison) : tokens (c.fragment table).sql =
    .word "WITH" true :: .word "YEARLY" false :: .word "AS" true :: .sign "(" ::
      .word "SELECT" true :: (tokens c.helperItems ++ .word "FROM" true ::
        (tokens (tableRef table.text) ++ .word "WHERE" true ::
          (tokens (conditions Sql.column c.helperFilters).sql ++
            (.word "GROUP" true :: .word "BY" true :: .quoted '"' c.keyColumn.text ::
              .sign "," :: .quoted '"' c.yearColumn.text :: .sign ")" :: tokens c.pairs)))) := by
  rw [helperFilters_sql, fragment_sql]
  simp only [opening, helperItems, tokens_append, List.append_assoc]
  rfl

/-- The part of a comparison behind its helper is a query. -/
lemma reads_pairs (c : Comparison) : Reads (depth + 5) (.first
    [([.word "INSERT"], insert), ([.word "UPDATE"], update)]
      (.part .body ++ maybeOrder ++ maybeBounds ++ .maybe [.word "FETCH"] fetch ++ .part .locks))
    (tokens c.pairs) (some []) := by
  unfold pairs ranking
  cases c.direction <;> exact reads_of_run 300 fun _ => rfl

/-- **The text of a comparison is a statement.**

**Proof sketch.** Its helper is a query as others are, between parentheses. What the helper shows
and what comes behind it are the same for every comparison, but for names, so their readings are
run. -/
theorem reads_fragment (table : Ident) {c : Comparison} (hfilters : IsWritable c.filters) :
    Reads (depth + 7) (.part .statement) (tokens (c.fragment table).sql) (some []) := by
  let t₃ := .sign ")" :: tokens c.pairs
  let t₂ := .word "GROUP" true :: .word "BY" true :: .quoted '"' c.keyColumn.text :: .sign "," ::
    .quoted '"' c.yearColumn.text :: t₃
  let t₁ := .word "WHERE" true :: (tokens (conditions Sql.column c.helperFilters).sql ++ t₂)
  let t₀ := .word "SELECT" true :: (tokens c.helperItems ++ .word "FROM" true ::
    (tokens (tableRef table.text) ++ t₁))
  have h₃ : Begins [.sign ")"] t₃ := .cons List.mem_cons_self
  have h₂ : Begins [.word "GROUP" true] t₂ := .cons List.mem_cons_self
  have h₁ : Begins [.word "WHERE" true] t₁ := .cons List.mem_cons_self
  have hwritable : IsWritable c.helperFilters := by
    intro f hf
    rcases List.mem_append.mp hf with hf | hf
    · exact hfilters f hf
    · obtain rfl := List.mem_singleton.mp hf
      simp
  have hne : (conditions Sql.column c.helperFilters).sql ≠ [] := by
    rw [helperFilters_sql]
    exact List.append_ne_nil_of_right_ne_nil _ (List.cons_ne_nil _ _)
  have hwhere : Reads (depth + 4) maybeWhere t₁ (some t₂) :=
    .on_yes rfl rfl (reads_conditions (h₂.mono (by decide)) isTarget_column hwritable hne)
  have hgroups : Reads (depth + 4) groups
      (tokens (Sql.columns [c.keyColumn, c.yearColumn]) ++ t₃) (some t₃) :=
    reads_groups (h₃.mono (by decide)) (List.cons_ne_nil _ _)
  have hgroup : Reads (depth + 4) (.maybe [.word "GROUP", .word "BY"] _) t₂ (some t₃) :=
    .on_yes rfl rfl hgroups
  have hselect : Reads (depth + 4) Language.select (tokens c.helperItems ++ .word "FROM" true ::
      (tokens (tableRef table.text) ++ t₁)) (some t₃) :=
    reads_select (fun _ => reads_of_run 200 fun _ => rfl) (h₁.mono (by decide)) hwhere hgroup
      (h₃.mono (by decide)) (.absent h₃ rfl) (h₃.mono (by decide))
  have hinner : Reads (depth + 5) query t₀ (some t₃) :=
    reads_query hselect (h₃.mono (by decide)) (.maybe_no rfl) (reads_of_run 20 fun _ => rfl) h₃
  have hbody : Reads (depth + 5) (Rule.parens query) (.sign "(" :: t₀) (some (tokens c.pairs)) :=
    ((Reads.one rfl).seq hinner).seq (.one rfl)
  have hhelper : Reads (depth + 5) helper
      (.word "YEARLY" false :: .word "AS" true :: .sign "(" :: t₀) (some (tokens c.pairs)) :=
    ((Reads.one rfl).seq (.on_yes rfl rfl hbody)).seq (.maybe_no rfl)
  have hwith : Reads (depth + 5) (.maybe [.word "RECURSIVE"] .done ++ .list helper) _ _ :=
    (Reads.maybe_no rfl).seq (.list_one hhelper rfl)
  have hquery : Reads (depth + 6) query (.word "WITH" true :: _) (some []) :=
    .nest rfl ((Reads.on_yes rfl rfl hwith).seq (reads_pairs c))
  rw [tokens_fragment]
  exact reads_statement (.inr rfl) hquery

end Comparison

/-- The tokens of the text for the different values of a column. -/
lemma tokens_distinctText (table c : Ident) : tokens (distinctText table c) =
    .word "SELECT" true :: (.word "DISTINCT" true :: [.quoted '"' c.text] ++ .word "FROM" true ::
      (tokens (tableRef table.text) ++ [.word "WHERE" true, .quoted '"' c.text, .word "IS" true,
        .word "NOT" true, .word "NULL" true, .word "ORDER" true, .word "BY" true,
        .quoted '"' c.text])) := by
  simp only [distinctText, tokens_append, List.append_assoc]
  rfl

/-- **The text for the different values of a column is a statement.** -/
theorem reads_distinctText (table c : Ident) :
    Reads (depth + 6) (.part .statement) (tokens (distinctText table c)) (some []) := by
  let t₂ : List Token := [.word "ORDER" true, .word "BY" true, .quoted '"' c.text]
  let t₁ := .word "WHERE" true :: .quoted '"' c.text :: .word "IS" true :: .word "NOT" true ::
    .word "NULL" true :: t₂
  have h₂ : Begins [.word "ORDER" true] t₂ := .cons List.mem_cons_self
  have h₁ : Begins [.word "WHERE" true] t₁ := .cons List.mem_cons_self
  have hwhere : Reads (depth + 4) maybeWhere t₁ (some t₂) := reads_of_run 100 fun _ => rfl
  have hselect : Reads (depth + 4) Language.select (.word "DISTINCT" true :: [.quoted '"' c.text] ++
      .word "FROM" true :: (tokens (tableRef table.text) ++ t₁)) (some t₂) :=
    reads_select (fun _ => reads_of_run 100 fun _ => rfl) (h₁.mono (by decide)) hwhere
      (.maybe_no rfl) (h₂.mono (by decide)) (.maybe_no rfl) (h₂.mono (by decide))
  have horder : Reads (depth + 4) maybeOrder t₂ (some []) := reads_of_run 100 fun _ => rfl
  have hbounds : Reads (depth + 4) maybeBounds [] (some []) := reads_of_run 20 fun _ => rfl
  rw [tokens_distinctText]
  exact reads_statement (.inl rfl) (reads_query hselect (h₂.mono (by decide)) horder hbounds .nil)

/-! ## Texts as scripts -/

namespace Sql

/-- A text that opens as a query and is read as one statement is one query. -/
lemma grammatical_of_reads {places : Prop} {numbers : List Nat} {sql : Sql}
    (hdrawn : Drawn places numbers sql) (hspaced : spaced .free sql = true)
    (hopens : (tokens sql).head?.any isQuery = true)
    (hreads : Reads maxNesting (.part .statement) (tokens sql) (some [])) :
    grammatical sql.render = .ok [true] := by
  have hscan : tokens? sql.render = some (tokens sql) := by
    rw [tokens?, toList_render, tokens?_chars hdrawn hspaced]
  have hstatement := hreads.afterStatement?_eq (isTextless_tokens hdrawn)
  have hscript : statements? (tokens sql) = some [true] := by
    cases htokens : tokens sql with
    | nil =>
      rw [htokens] at hopens
      exact absurd hopens Bool.false_ne_true
    | cons t ts =>
      rw [htokens] at hopens hstatement
      have hquery : isQuery t = true := hopens
      have hsign : t ≠ .sign ";" := by
        rintro rfl
        exact absurd hquery (by decide)
      rw [statements?.eq_def]
      simp [hsign, hstatement, hquery]
  rw [grammatical, script?, hscan, Option.bind_eq_bind, Option.bind_some, hscript]

/-- **The grammar takes the texts put together here for queries.**

**Proof sketch.** No piece of such a text runs into the next one, so the scanner finds the tokens of
its pieces, and these are read as a statement. The statement opens as a query does. -/
theorem takesBuilt_grammatical : Reader.TakesBuilt grammatical where
  -- Of the fifty levels of nesting a query takes six, and a comparison seven for its helper.
  query table q s hfilters hhaving hs := by
    have hreads : Reads (44 + 6) (.part .statement) (tokens (q.fragment table s).sql) (some []) :=
      Query.reads_fragment table hfilters hhaving hs
    have hopens : (tokens (q.fragment table s).sql).head?.any isQuery = true := by
      rw [q.tokens_fragment table s]
      rfl
    exact grammatical_of_reads (q.drawn_fragment table hs) (q.spaced_fragment table hs) hopens
      hreads
  comparison table c hfilters := by
    have hreads : Reads (43 + 7) (.part .statement) (tokens (c.fragment table).sql) (some []) :=
      Comparison.reads_fragment table hfilters
    have hopens : (tokens (c.fragment table).sql).head?.any isQuery = true := by
      rw [c.tokens_fragment table]
      rfl
    exact grammatical_of_reads (c.drawn_fragment table) (c.spaced_fragment table) hopens hreads
  distinct table column := by
    have hreads : Reads (44 + 6) (.part .statement) (tokens (distinctText table column))
        (some []) :=
      reads_distinctText table column
    have hopens : (tokens (distinctText table column)).head?.any isQuery = true := by
      rw [tokens_distinctText]
      rfl
    exact grammatical_of_reads (drawn_distinctText table column) (spaced_distinctText table column)
      hopens hreads

/-- A text with an empty list of values is no statement. -/
example : script? "SELECT * FROM \"t\" WHERE \"a\" IN () LIMIT 1" = none := by decide +kernel

end Sql

end QueryGate
