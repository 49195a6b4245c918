import QueryGate.Sql.Language.Expression

set_option relaxedAutoImplicit false
set_option autoImplicit false

/-!
# Queries of the language

A query has helpers before it, bodies joined by set operations, and an order and limits behind
them. After its helpers a command that changes a table may stand in its place.

## Main definitions

* `QueryGate.Sql.Language.sources` — the tables that a query reads.
* `QueryGate.Sql.Language.select` — a single query.
* `QueryGate.Sql.Language.body` — queries joined by set operations.
* `QueryGate.Sql.Language.wholeQuery` — a query with all that goes with it.
-/

namespace QueryGate.Sql

namespace Language

open Rule

/-! ## Tables -/

/-- A query in place of a table, after the opening parenthesis. -/
def derived : Rule Part := query ++ sign ")" ++ sourceLabel

/-- A turn of rows into columns behind a table, after `PIVOT`. -/
def pivot : Rule Part :=
  parens (ident ++ sign "(" ++ call ++ keyword "FOR" ++ dottedName ++ keyword "IN" ++
    parens (list value)) ++ sourceLabel

/-- A turn of columns into rows behind a table, after `UNPIVOT`. -/
def unpivot : Rule Part :=
  parens (name ++ keyword "FOR" ++ name ++ keyword "IN" ++ names) ++ sourceLabel

/-- The turns of rows into columns, and of columns into rows, behind a table. -/
def pivots : Rule Part :=
  on [.word "PIVOT"] (pivot ++ part .pivots) (maybe [.word "UNPIVOT"] (unpivot ++ part .pivots))

/-- A table that does not open with a parenthesis. -/
def singleSource : Rule Part :=
  first [
    ([.word "LATERAL", .sign "("], derived),
    ([.word "LATERAL"], dottedName ++ sign "(" ++ arguments ++ sourceLabel),
    ([.word "TABLE"], parens expression ++ sourceLabel)]
    (dottedName ++ maybe [.sign "("] arguments ++ sourceLabel ++
      maybe [.word "WITH", .sign "("] (expressions ++ sign ")") ++ part .pivots)

/-- A table, or what stands for one. -/
def source : Rule Part :=
  on [.sign "("] (attempt derived done (part .joinedSources)) singleSource

/-- What stands between the parentheses around joined tables, with the closing one. A table on its
own is not put between parentheses. -/
def joinedSources : Rule Part :=
  on [.sign "("]
    (attempt derived (part (.joins true)) (part .joinedSources ++ part (.joins false)))
    (singleSource ++ part (.joins true)) ++
  sign ")" ++ sourceLabel

/-- What two tables are joined on, or nothing. -/
def maybeConstraint : Rule Part :=
  on [.word "ON"] expression (maybe [.word "USING"] names)

/-- The tables joined to one before them. `must` says that there has to be one. -/
def joins (must : Bool) : Rule Part :=
  let next := part .source
  let more := part (.joins false)
  let kinds (after : Rule Part) : List (List Kind × Rule Part) := [
    ([.word "INNER"], keyword "JOIN" ++ after),
    ([.word "JOIN"], after),
    ([.anyWord ["LEFT", "RIGHT"]],
      maybe [.anyWord ["OUTER", "SEMI", "ANTI"]] done ++ keyword "JOIN" ++ after),
    ([.word "FULL"], maybe [.word "OUTER"] done ++ keyword "JOIN" ++ after)]
  first ([
    ([.word "CROSS"], anyKeyword ["JOIN", "APPLY"] ++ next ++ more),
    ([.word "OUTER"], keyword "APPLY" ++ next ++ more),
    ([.word "NATURAL"], first (kinds (next ++ more)) never)] ++
    kinds (next ++ maybeConstraint ++ more)) (if must then never else done)

/-- A table with the tables joined to it. -/
def joined : Rule Part := part .source ++ part (.joins false)

/-- The tables that a query reads. -/
def sources : Rule Part := list joined

/-! ## Single queries -/

/-- A bound on the rows, with the words that may go with it. -/
def top : Rule Part :=
  on [.sign "("] (expression ++ sign ")") count ++ maybe [.word "PERCENT"] done ++
    maybe [.word "WITH", .word "TIES"] done

/-- The lateral views of a query. The names of their columns may be left out. -/
def views : Rule Part :=
  maybe [.word "LATERAL", .word "VIEW"]
    (maybe [.word "OUTER"] done ++ expression ++ dottedName ++ list (label viewEnds done) ++
      part .views)

/-- Expressions between parentheses, or none, after the opening one. -/
def group : Rule Part := on [.sign ")"] done (expressions ++ sign ")")

/-- What rows are grouped by. -/
def groupItem : Rule Part :=
  first [
    ([.word "GROUPING", .word "SETS"], parens (list (sign "(" ++ group))),
    ([.anyWord ["CUBE", "ROLLUP"]], parens (list (on [.sign "("] group expression)))]
    expression

/-- A single query, after `SELECT`. -/
def select : Rule Part :=
  maybeDistinct ++ maybe [.word "TOP"] top ++ list item ++
    maybe [.word "INTO"]
      (maybe [.anyWord ["TEMP", "TEMPORARY"]] done ++ maybe [.word "UNLOGGED"] done ++
        maybe [.word "TABLE"] done ++ dottedName) ++
    maybe [.word "FROM"] sources ++ part .views ++ maybeWhere ++
    maybe [.word "GROUP", .word "BY"] (on [.word "ALL"] done (list groupItem)) ++
    maybe [.word "CLUSTER", .word "BY"] expressions ++
    maybe [.word "DISTRIBUTE", .word "BY"] expressions ++
    maybe [.word "SORT", .word "BY"] expressions ++
    maybe [.word "HAVING"] expression ++
    maybe [.word "WINDOW"] (list (name ++ keyword "AS" ++ sign "(" ++ window)) ++
    maybe [.word "QUALIFY"] expression

/-- Rows given one by one, after `VALUES`. -/
def rows : Rule Part := list (maybe [.word "ROW"] done ++ parens expressions)

/-- A table in place of a query, after `TABLE`. Of three tokens the second shows whether the name
has two parts. -/
def wholeTable : Rule Part :=
  on [.ident, .sign "."] (one .ident) (one .ident ++ maybe [.any] done ++ maybe [.any] done)

/-! ## Whole queries -/

/-- Queries joined by set operations. -/
def body : Rule Part :=
  let quantity := maybe [.anyWord ["ALL", "DISTINCT"]] done
  first [
    ([.word "SELECT"], select),
    ([.sign "("], query ++ sign ")"),
    ([.word "VALUES"], rows),
    ([.word "TABLE"], wholeTable)] never ++
  first [
    ([.word "UNION", .word "BY", .word "NAME"], part .body),
    ([.word "UNION", .anyWord ["ALL", "DISTINCT"], .word "BY", .word "NAME"], part .body),
    ([.word "UNION"], quantity ++ part .body),
    ([.anyWord ["EXCEPT", "INTERSECT"]], quantity ++ part .body)] done

/-- A named query that the query after it may read. -/
def helper : Rule Part :=
  name ++ on [.word "AS"] (parens query) (maybeNames ++ keyword "AS" ++ parens query) ++
    maybe [.word "FROM"] name

/-- How many rows to leave out, after `OFFSET`. -/
def offset : Rule Part := expression ++ maybe [.anyWord ["ROW", "ROWS"]] done

/-- The bounds on rows, in either order, or nothing. A first bound that lets all rows through does
not count. -/
def maybeBounds : Rule Part :=
  let bounds := on [.word "OFFSET"] (offset ++ maybe [.word "LIMIT"] limit)
    (maybe [.word "LIMIT"] (limit ++ maybe [.word "OFFSET"] offset))
  on [.word "LIMIT", .word "ALL"] bounds bounds

/-- The rows to fetch, after `FETCH`. -/
def fetch : Rule Part :=
  anyKeyword ["FIRST", "NEXT"] ++
    on [.anyWord ["ROW", "ROWS"]] done
      (value ++ maybe [.word "PERCENT"] done ++ anyKeyword ["ROW", "ROWS"]) ++
    on [.word "ONLY"] done (keyword "WITH" ++ keyword "TIES")

/-- The locks that a query asks for. -/
def locks : Rule Part :=
  maybe [.word "FOR"]
    (anyKeyword ["UPDATE", "SHARE"] ++ maybe [.word "OF"] dottedName ++
      on [.word "NOWAIT"] done (maybe [.word "SKIP", .word "LOCKED"] done) ++ part .locks)

/-- A query with all that goes with it, where some commands may stand in its place. -/
def wholeQuery (commands : List (List Kind × Rule Part)) : Rule Part :=
  maybe [.word "WITH"] (maybe [.word "RECURSIVE"] done ++ list helper) ++
    first commands
      (part .body ++ maybeOrder ++ maybeBounds ++ maybe [.word "FETCH"] fetch ++ part .locks)

end Language

end QueryGate.Sql
