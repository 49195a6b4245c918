import QueryGate.Request.Comparison
import QueryGate.Request.Query
import QueryGate.Sql.Statement

set_option relaxedAutoImplicit false
set_option autoImplicit false

/-!
# Statements of requests

The clauses of a query stand in a fixed order: what is shown, the table, the conditions on rows,
the grouping, the conditions on groups, the sort order, and the limits on rows.

## Main definitions

* `QueryGate.Query.statement` — the statement of a query.
* `QueryGate.Comparison.statement` — the statement of a comparison of two years.
* `QueryGate.distinctStatement` — the statement for the different values of a column.
* `QueryGate.Sql.Reader.TakesBuilt` — a reader that takes these statements for queries.
-/

namespace QueryGate

open Sql

/-- A clause that stands only where it has a body. -/
def Sql.clause (opening : String) (body : Sql) : Sql :=
  if body.isEmpty then [] else word opening ++ body

/-- The sort order. -/
def Sql.sortKeys (keys : List SortKey) : Sql :=
  sepBy ", " (keys.map fun k => column k.column ++ word (if k.descending then " DESC" else " ASC"))

/-- The parts of a query that depend on whether it aggregates. -/
structure Query.Shown where
  /-- What is shown. -/
  projection : Sql
  /-- The conditions on groups. -/
  having : Fragment
  /-- The sort order, with references resolved. -/
  orderBy : List SortKey

namespace Query

/-- What a query without aggregation shows. -/
def shownPlain (q : Query) : Except Refusal Shown :=
  if !q.having.isEmpty then .error .havingAlone
  else .ok ⟨if q.select.isEmpty then word "*" else columns q.select, ⟨[], []⟩, q.orderBy⟩

/-- What a query with aggregation shows. -/
def shownGrouped (q : Query) : Except Refusal Shown := do
  let plan ← Plan.build q.aggregations q.select q.groupBy
  let having ← plan.remapHaving q.having
  return ⟨sepBy ", " plan.projection, plan.groupConditions having, plan.remapKeys q.orderBy⟩

/-- What a query shows. -/
def shown (q : Query) : Except Refusal Shown :=
  if q.aggregations.isEmpty then q.shownPlain else q.shownGrouped

/-- The text of a query and its literals. -/
def fragment (table : Ident) (q : Query) (s : Shown) : Fragment :=
  let rows := rowConditions q.filters
  { sql :=
      word "SELECT " ++ s.projection ++ word " FROM " ++ tableRef table.text ++
      clause " WHERE " rows.sql ++
      clause " GROUP BY " (columns q.groupBy) ++
      clause " HAVING " s.having.sql ++
      clause " ORDER BY " (sortKeys s.orderBy) ++
      word " LIMIT " ++ [.number q.limit] ++
      (if q.offset = 0 then [] else word " OFFSET " ++ [.number q.offset])
    params := rows.params ++ s.having.params }

/-- The statement of a query, as far as the reader takes its text for one. -/
def statement (table : Ident) (q : Query) (reader : Reader) :
    Except Failure Statement := do
  let shown ← q.shown.mapError Refusal.failure
  let f := q.fragment table shown
  (Statement.verified reader f.sql f.params).mapError StatementFault.failure

end Query

namespace Comparison

/-- The text of a comparison and its literals: the sums per entry and year, each entry's two sums
side by side, and the change between them. -/
def fragment (table : Ident) (c : Comparison) : Fragment :=
  let rows := rowConditions c.filters
  let key := column c.keyColumn
  let value := column c.valueColumn
  let year := column c.yearColumn
  let named := fun (words name : String) => word words ++ [Piece.quoted name]
  { sql :=
      word "WITH yearly AS (SELECT " ++ key ++ word " AS entity_key, " ++ year ++
      word " AS period, SUM(" ++ value ++ word ") AS amount FROM " ++ tableRef table.text ++
      word " WHERE " ++ (if rows.sql.isEmpty then [] else rows.sql ++ word " AND ") ++ year ++
      word " IN (" ++ slots 2 ++ word ") GROUP BY " ++ key ++ word ", " ++ year ++ word ") " ++
      named "SELECT b.entity_key AS " "key" ++ named ", b.amount AS " "base" ++
      named ", c.amount AS " "compare" ++ named ", b.amount - c.amount AS " "delta" ++
      named ", CAST(b.amount - c.amount AS DOUBLE) / NULLIF(b.amount, 0) * 100 AS " "pct" ++
      word " FROM yearly b JOIN yearly c ON b.entity_key = c.entity_key WHERE b.period = " ++
      [.slot] ++ word " AND c.period = " ++ [.slot] ++ named " ORDER BY " "delta" ++
      word (match c.direction with | .drop => " DESC" | .rise => " ASC") ++
      named " NULLS LAST, " "key" ++ word " ASC LIMIT " ++ [.number c.topCount]
    params :=
      rows.params ++ [.integer c.baseYear, .integer c.compareYear, .integer c.baseYear,
        .integer c.compareYear] }

/-- The statement of a comparison, as far as the reader takes its text for one. -/
def statement (table : Ident) (c : Comparison) (reader : Reader) :
    Except Failure Statement :=
  let f := c.fragment table
  (Statement.verified reader f.sql f.params).mapError StatementFault.failure

end Comparison

/-- The text for the different values of a column, in order. -/
def distinctText (table c : Ident) : Sql :=
  word "SELECT DISTINCT " ++ column c ++ word " FROM " ++ tableRef table.text ++
    word " WHERE " ++ column c ++ word " IS NOT NULL ORDER BY " ++ column c

/-- The statement for the different values of a column, as far as the reader takes its text for
one. -/
def distinctStatement (table c : Ident) (reader : Reader) : Except Failure Statement :=
  (Statement.verified reader (distinctText table c) []).mapError StatementFault.failure

/-- A reader that takes every text put together here for one query, as long as its filters can be
written. -/
structure Sql.Reader.TakesBuilt (reader : Reader) : Prop where
  /-- The texts of queries. -/
  query : ∀ (table : Ident) {q : Query} {s : Query.Shown}, IsWritable q.filters →
    IsWritable q.having → q.shown = .ok s → reader (q.fragment table s).sql.render = .ok [true]
  /-- The texts of comparisons. -/
  comparison : ∀ (table : Ident) {c : Comparison}, IsWritable c.filters →
    reader (c.fragment table).sql.render = .ok [true]
  /-- The texts for the different values of a column. -/
  distinct : ∀ table column : Ident, reader (distinctText table column).render = .ok [true]

end QueryGate
