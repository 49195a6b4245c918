import QueryGate.Proofs.Sql.Places

set_option relaxedAutoImplicit false
set_option autoImplicit false

/-!
# Texts are blind to literals

Two requests that differ in their literals alone get the same text, or are refused alike.

## Main definitions

* `QueryGate.Condition.Alike`, `QueryGate.ColumnFilter.Alike` — conditions and filters that differ
  in their literals alone.
* `QueryGate.Query.Alike`, `QueryGate.Comparison.Alike` — requests that do.

## Main results

* `QueryGate.text_blind_to_literals` — such requests have the same text or the same failure.

## Implementation notes

Two runs of the builder are followed side by side. Each step ends in both with the same refusal or
with values that again differ in literals alone.
-/

namespace QueryGate

open Sql Outcome

/-! ## Requests that differ in literals alone -/

/-- Two conditions of one kind, with one comparison and with as many literals. -/
inductive Condition.Alike : Condition → Condition → Prop
  | scalar (v w : Literal) : Alike (.scalar v) (.scalar w)
  | isNull : Alike .isNull .isNull
  | inSet {vs ws : List Literal} (h : vs.length = ws.length) : Alike (.inSet vs) (.inSet ws)
  | between (low high low' high' : Literal) : Alike (.between low high) (.between low' high')
  | compare (op : Comparator) (v w : Literal) : Alike (.compare op v) (.compare op w)
  | contains (s t : String) : Alike (.contains s) (.contains t)

/-- Two filters on one column whose conditions differ in literals alone. -/
structure ColumnFilter.Alike (f g : ColumnFilter) : Prop where
  /-- The columns. -/
  column : f.column = g.column
  /-- The conditions. -/
  conditions : List.Forall₂ Condition.Alike f.conditions g.conditions

/-- Two queries that differ in the literals of their conditions alone. -/
structure Query.Alike (q r : Query) : Prop where
  /-- The columns to show. -/
  select : q.select = r.select
  /-- The conditions on rows. -/
  filters : List.Forall₂ ColumnFilter.Alike q.filters r.filters
  /-- The columns to group by. -/
  groupBy : q.groupBy = r.groupBy
  /-- The sort order. -/
  orderBy : q.orderBy = r.orderBy
  /-- The most rows. -/
  limit : q.limit = r.limit
  /-- The number of rows to pass over. -/
  offset : q.offset = r.offset
  /-- The aggregated columns with their functions. -/
  aggregations : q.aggregations = r.aggregations
  /-- The conditions on groups. -/
  having : List.Forall₂ ColumnFilter.Alike q.having r.having

/-- Two comparisons that differ in the literals of their conditions and in their years alone. -/
structure Comparison.Alike (c d : Comparison) : Prop where
  /-- The columns whose entries are ranked. -/
  keyColumn : c.keyColumn = d.keyColumn
  /-- The columns whose values are compared. -/
  valueColumn : c.valueColumn = d.valueColumn
  /-- The columns that hold the year. -/
  yearColumn : c.yearColumn = d.yearColumn
  /-- The conditions on rows. -/
  filters : List.Forall₂ ColumnFilter.Alike c.filters d.filters
  /-- How many entries are shown. -/
  topCount : c.topCount = d.topCount
  /-- Which change comes first. -/
  direction : c.direction = d.direction

/-! ## Conditions -/

/-- Conditions that differ in literals alone have one text. -/
lemma Condition.Alike.sql_eq {c d : Condition} (h : c.Alike d) (target : Sql) :
    c.sql target = d.sql target := by
  cases h with
  | inSet hlen => simp only [Condition.sql, hlen]
  | _ => rfl

/-- Conditions that differ in literals alone have as many of them. -/
lemma Condition.Alike.length_literals {c d : Condition} (h : c.Alike d) :
    c.literals.length = d.literals.length := by
  cases h with
  | inSet hlen => exact hlen
  | _ => rfl

/-- Two texts that are the same, with as many literals. -/
structure Sql.Fragment.Alike (f g : Fragment) : Prop where
  /-- The texts. -/
  sql : f.sql = g.sql
  /-- The numbers of literals. -/
  params : f.params.length = g.params.length

/-- Filters that differ in literals alone have as many of them. -/
lemma length_literalsIn {fs gs : List ColumnFilter}
    (h : List.Forall₂ ColumnFilter.Alike fs gs) :
    (literalsIn fs).length = (literalsIn gs).length := by
  have hfilter : ∀ f g : ColumnFilter, f.Alike g →
      (f.conditions.flatMap Condition.literals).length =
        (g.conditions.flatMap Condition.literals).length := fun f g hfg => by
    rw [List.length_flatMap, List.length_flatMap,
      map_eq_of_forall₂ (fun c d hcd => hcd.length_literals) hfg.conditions]
  rw [literalsIn, literalsIn, List.length_flatMap, List.length_flatMap,
    map_eq_of_forall₂ hfilter h]

/-- Filters that differ in literals alone make one text, with as many literals. -/
lemma conditions_alike (target : Ident → Sql) {fs gs : List ColumnFilter}
    (h : List.Forall₂ ColumnFilter.Alike fs gs) :
    (conditions target fs).Alike (conditions target gs) := by
  have hfilter : ∀ f g : ColumnFilter, f.Alike g →
      f.conditions.map (Condition.sql (target f.column)) =
        g.conditions.map (Condition.sql (target g.column)) := fun f g hfg => by
    rw [hfg.column]
    exact map_eq_of_forall₂ (fun c d hcd => hcd.sql_eq _) hfg.conditions
  refine ⟨?_, length_literalsIn h⟩
  simp only [conditions, List.flatMap_def, map_eq_of_forall₂ hfilter h]

/-! ## Queries -/

namespace Plan

/-- References in filters that differ in literals alone are resolved alike. -/
lemma remapHaving_alike (p : Plan) {fs gs : List ColumnFilter}
    (h : List.Forall₂ ColumnFilter.Alike fs gs) :
    Outcome.Alike (List.Forall₂ ColumnFilter.Alike) (p.remapHaving fs) (p.remapHaving gs) := by
  refine Outcome.Alike.mapM (fun f g hfg => ?_) h
  unfold remapFilter
  rw [hfg.column]
  dsimp only
  split_ifs
  · exact Outcome.Alike.ok ⟨rfl, hfg.conditions⟩
  · exact Outcome.Alike.error _

end Plan

namespace Query

/-- Two queries show the same things under conditions that differ in literals alone. -/
structure Shown.Alike (s t : Shown) : Prop where
  /-- What is shown. -/
  projection : s.projection = t.projection
  /-- The conditions on groups. -/
  having : s.having.Alike t.having
  /-- The sort order. -/
  orderBy : s.orderBy = t.orderBy

variable {q r : Query}

/-- Queries that differ in literals alone show the same things or are refused alike. -/
lemma Alike.shown (h : q.Alike r) : Outcome.Alike Shown.Alike q.shown r.shown := by
  have hempty : q.having.isEmpty = r.having.isEmpty := by
    rw [Bool.eq_iff_iff, List.isEmpty_iff_length_eq_zero, List.isEmpty_iff_length_eq_zero,
      h.having.length_eq]
  unfold Query.shown
  rw [h.aggregations]
  split_ifs
  · unfold shownPlain
    rw [hempty, h.select, h.orderBy]
    split_ifs
    · exact Outcome.Alike.error _
    · exact Outcome.Alike.ok ⟨rfl, ⟨rfl, rfl⟩, rfl⟩
    · exact Outcome.Alike.ok ⟨rfl, ⟨rfl, rfl⟩, rfl⟩
  · unfold shownGrouped
    rw [h.aggregations, h.select, h.groupBy, h.orderBy]
    cases Plan.build r.aggregations r.select r.groupBy with
    | error e => exact Outcome.Alike.error e
    | ok p =>
      exact (p.remapHaving_alike h.having).bind fun fs gs hfg =>
        Outcome.Alike.ok ⟨rfl, conditions_alike p.expression hfg, rfl⟩

/-- Queries that differ in literals alone have one text, with as many literals. -/
lemma Alike.fragment (table : Ident) (h : q.Alike r) {s t : Shown} (hst : s.Alike t) :
    (q.fragment table s).Alike (r.fragment table t) := by
  have hrows := conditions_alike column h.filters
  constructor
  · rw [fragment_sql, fragment_sql, hrows.sql, hst.projection, hst.having.sql, hst.orderBy,
      h.groupBy, bounds, bounds, h.limit, h.offset]
  · have hrowCount := hrows.params
    have hgroupCount := hst.having.params
    simp only [Query.fragment, rowConditions, List.length_append, hrowCount, hgroupCount]

end Query

/-- Comparisons that differ in literals and years alone have one text, with as many literals. -/
lemma Comparison.Alike.fragment (table : Ident) {c d : Comparison} (h : c.Alike d) :
    (c.fragment table).Alike (d.fragment table) := by
  have hrows := conditions_alike column h.filters
  constructor
  · rw [fragment_sql, fragment_sql, hrows.sql, opening, opening, pairing, pairing, ranking, ranking,
      h.keyColumn, h.valueColumn, h.yearColumn, h.topCount, h.direction]
  · rw [params_fragment, params_fragment, List.length_append, List.length_append,
      length_literalsIn h.filters]
    rfl

/-! ## Statements -/

/-- The reader sees the text and the number of literals, and nothing else. -/
lemma Statement.verified_alike (reader : Reader) {f g : Fragment} (h : f.Alike g) :
    Outcome.Alike (fun st su : Statement => st.sql = su.sql)
      (verified reader f.sql f.params) (verified reader g.sql g.params) := by
  unfold verified
  dsimp only
  rw [h.sql, h.params]
  split_ifs
  · exact Outcome.Alike.error _
  · split
    · exact Outcome.Alike.error _
    · exact Outcome.Alike.ok rfl
    · exact Outcome.Alike.error _

/-- **Literals never influence the text of a statement.** Two queries that differ in the literals
of their conditions alone have the same text or the same failure, for every table and whatever the
reader makes of the text. So it is with two comparisons, which may differ in their years as
well.

**Proof sketch.** A condition shows its literals as places, and only the length of a list tells how
many. So queries that are alike are refused alike for what they would show (`Alike.shown`), and
their texts are equal piece by piece (`Alike.fragment`). The reader is told the text and nothing of
the literals (`Statement.verified_alike`). -/
theorem text_blind_to_literals (reader : Reader) (table : Ident) :
    (∀ q r : Query, q.Alike r →
      (q.statement table reader).map Statement.text =
        (r.statement table reader).map Statement.text) ∧
    ∀ c d : Comparison, c.Alike d →
      (c.statement table reader).map Statement.text =
        (d.statement table reader).map Statement.text := by
  have htext : ∀ st su : Statement, st.sql = su.sql → st.text = su.text :=
    fun st su hsql => congrArg Sql.render hsql
  constructor
  · intro q r h
    refine Outcome.Alike.map_eq ?_ htext
    exact (h.shown.mapError Refusal.failure).bind fun s t hst =>
      (Statement.verified_alike reader (h.fragment table hst)).mapError StatementFault.failure
  · intro c d h
    have hrun := (Statement.verified_alike reader (h.fragment table)).mapError
      StatementFault.failure
    rw [Comparison.statement, Comparison.statement]
    exact hrun.map_eq htext

/-- The query for emissions with other literals. -/
def otherEmissionsQuery : Query :=
  { emissionsQuery with
    filters := [
      ⟨countryColumn, [.scalar (.bool true), .contains "\" OR 1 = ?"]⟩,
      ⟨yearColumn,
        [.between (.text "2015") (.integer 0), .inSet [.text "?", .integer 7], .isNull]⟩]
    having := [⟨tonnesColumn, [.compare .above (.bool false), .compare .below (.text "--")]⟩] }

/-- Hostile literals in place of plain ones leave the text of the query as it is. -/
theorem text_blind_to_literals_emissions :
    emissionsQuery.Alike otherEmissionsQuery ∧
      (emissionsQuery.statement emissionsTable grammatical).map Statement.text =
        (otherEmissionsQuery.statement emissionsTable grammatical).map Statement.text :=
  have halike : emissionsQuery.Alike otherEmissionsQuery := {
    select := rfl
    filters := .cons ⟨rfl, .cons (.scalar _ _) (.cons (.contains _ _) .nil)⟩ <|
      .cons ⟨rfl, .cons (.between _ _ _ _) (.cons (.inSet rfl) (.cons .isNull .nil))⟩ .nil
    groupBy := rfl
    orderBy := rfl
    limit := rfl
    offset := rfl
    aggregations := rfl
    having := .cons ⟨rfl, .cons (.compare .above _ _) (.cons (.compare .below _ _) .nil)⟩ .nil }
  ⟨halike, (text_blind_to_literals grammatical emissionsTable).1 _ _ halike⟩

end QueryGate
