import QueryGate.Filter.Reading
import QueryGate.Limits
import QueryGate.Request.Order
import QueryGate.Sql.Aggregation
import QueryGate.Word

set_option relaxedAutoImplicit false
set_option autoImplicit false

/-!
# Query requests

A request for rows of one dataset as written, and the query that it stands for once every part of
it is checked.

## Main definitions

* `QueryGate.QueryRequest` — a request as written.
* `QueryGate.Query` — a checked request.
* `QueryGate.QueryRequest.check` — the query of a request.
-/

namespace QueryGate

/-- A request for rows as written. -/
structure QueryRequest where
  /-- The dataset. -/
  fileId : String
  /-- The columns to show. -/
  select : List String := []
  /-- The conditions on rows, by column. -/
  filters : List (String × Json) := []
  /-- The columns to group by. -/
  groupBy : List String := []
  /-- The sort order. -/
  orderBy : OrderSpec := .none
  /-- The most rows wanted. -/
  limit : Option Nat := none
  /-- The number of rows to pass over. -/
  offset : Option Nat := none
  /-- The aggregation functions, by column. -/
  aggregations : List (String × Json) := []
  /-- The conditions on groups, by column. -/
  having : List (String × Json) := []

/-- A checked request. -/
structure Query where
  /-- The columns to show, each once. -/
  select : List Ident
  /-- The conditions on rows. -/
  filters : List ColumnFilter
  /-- The columns to group by, each once. -/
  groupBy : List Ident
  /-- The sort order. -/
  orderBy : List SortKey
  /-- The most rows. -/
  limit : Nat
  /-- The number of rows to pass over. -/
  offset : Nat
  /-- The aggregated columns with their functions. -/
  aggregations : List (Ident × Aggregator)
  /-- The conditions on groups. -/
  having : List ColumnFilter

/-- Columns, each once, in the order of their first mention. -/
def uniqueColumns (names : List String) : Except Refusal (List Ident) :=
  names.eraseDups.mapM Ident.column

/-- One aggregation: a column with the name of a function. -/
def readAggregation (entry : String × Json) : Except Refusal (Ident × Aggregator) :=
  match entry.2 with
  | .str func => do
    let column ← Ident.column entry.1
    return (column, ← Aggregator.ofName func)
  | _ => .error (.functionNotText entry.1)

/-- A sort key with its column checked. -/
def SortTerm.check (t : SortTerm) : Except Refusal SortKey :=
  (Ident.column t.column).map fun c => ⟨c, t.descending⟩

/-- The largest offset, the last that the engine counts. -/
def maxOffset : Nat := Word.maxSigned.toNat

/-- The query of a request. The sort order is read first, then sizes and names are checked
together, then each part in turn. -/
def QueryRequest.check (limits : Limits) (r : QueryRequest) : Except Refusal Query := do
  let order ← r.orderBy.parse
  let offset := r.offset.getD 0
  if maxOffset < offset then throw (.offsetTooLarge offset)
  limits.ceilings.check r.select (r.filters.map (·.1)) r.groupBy
    (order.map (·.column) ++ r.aggregations.map (·.1) ++ r.having.map (·.1))
  let select ← uniqueColumns r.select
  let groupBy ← uniqueColumns r.groupBy
  let filters ← readFilters r.filters
  let having ← readFilters r.having
  let aggregations ← r.aggregations.mapM readAggregation
  let orderBy ← order.mapM SortTerm.check
  return {
    select, filters, groupBy, orderBy, limit := limits.rows r.limit, offset, aggregations, having }

end QueryGate
