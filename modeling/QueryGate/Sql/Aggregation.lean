import QueryGate.Sql.Condition
import QueryGate.Text.Blank
import QueryGate.Text.Case

set_option relaxedAutoImplicit false
set_option autoImplicit false

/-!
# Aggregation

A query that aggregates shows the grouped columns and one value per aggregated column, under a
generated name. Later references to an aggregated column mean that value, except where the column
is grouped by as well.

## Main definitions

* `QueryGate.Aggregator` — the aggregation functions.
* `QueryGate.Aggregate` — a column with its function and the generated name.
* `QueryGate.Plan` — what a query that aggregates shows.
* `QueryGate.Plan.build` — the plan of some aggregations, selected and grouped columns.
* `QueryGate.Plan.remap`, `QueryGate.Plan.expression` — what a reference means.
-/

namespace QueryGate

/-- The aggregation functions. -/
inductive Aggregator
  | sum
  | avg
  | count
  | distinct
  | min
  | max
  | std
  | variance
  deriving DecidableEq, Repr

namespace Aggregator

/-- The function of a name, in any letter case and with white space around it. -/
def ofName (name : String) : Except Refusal Aggregator :=
  match Text.lower (Text.trim name) with
  | "sum" => .ok sum
  | "avg" | "mean" => .ok avg
  | "count" => .ok count
  | "distinct" => .ok distinct
  | "min" => .ok min
  | "max" => .ok max
  | "std" | "stddev" => .ok std
  | "variance" => .ok variance
  | other => .error (.unknownFunction other)

/-- The end of the generated name. -/
def suffix : Aggregator → String
  | sum => "sum"
  | avg => "avg"
  | count => "count"
  | distinct => "distinct"
  | min => "min"
  | max => "max"
  | std => "std"
  | variance => "variance"

/-- The words before the column in a call of the function. -/
def opening : Aggregator → String
  | sum => "SUM("
  | avg => "AVG("
  | count => "COUNT("
  | distinct => "COUNT(DISTINCT "
  | min => "MIN("
  | max => "MAX("
  | std => "STDDEV_SAMP("
  | variance => "VAR_SAMP("

/-- A call of the function on a column. -/
def apply (f : Aggregator) (c : Ident) : Sql :=
  Sql.word f.opening ++ Sql.column c ++ Sql.word ")"

end Aggregator

/-- A column with its function and the generated name. -/
structure Aggregate where
  /-- The column. -/
  source : Ident
  /-- The function. -/
  func : Aggregator
  /-- The generated name. -/
  label : Ident
  deriving DecidableEq

namespace Aggregate

/-- A column with its function, under the generated name. -/
def make (source : Ident) (func : Aggregator) : Except Refusal Aggregate :=
  (source.withSuffix func.suffix).map fun label => ⟨source, func, label⟩

/-- The value itself. -/
def expression (a : Aggregate) : Sql := a.func.apply a.source

/-- The value under its name. -/
def projection (a : Aggregate) : Sql :=
  a.expression ++ Sql.word " AS " ++ Sql.column a.label

end Aggregate

/-- A column to sort by. -/
structure SortKey where
  /-- The column. -/
  column : Ident
  /-- Whether the largest comes first. -/
  descending : Bool
  deriving DecidableEq

/-- What a query that aggregates shows. -/
structure Plan where
  /-- The columns shown as they are. -/
  plain : List Ident
  /-- The values shown. -/
  aggregates : List Aggregate
  /-- The columns grouped by. -/
  groupBy : List Ident

namespace Plan

/-- Whether a column is among the aggregated ones. -/
def isSource (aggregations : List (Ident × Aggregator)) (c : Ident) : Bool :=
  aggregations.any fun (source, _) => decide (source = c)

/-- The plan of some aggregations, selected and grouped columns. Every selected column has to be
aggregated or grouped by. -/
def build (aggregations : List (Ident × Aggregator)) (select groupBy : List Ident) :
    Except Refusal Plan := do
  let aggregates ← aggregations.mapM fun (source, func) => Aggregate.make source func
  let shown := select.filter fun c => !isSource aggregations c
  let ungrouped := shown.filter fun c => !groupBy.contains c
  if !ungrouped.isEmpty then throw (.ungrouped (ungrouped.map (·.text)))
  return ⟨(shown ++ groupBy).eraseDups, aggregates, groupBy⟩

/-- The items shown, in order. -/
def projection (p : Plan) : List Sql :=
  p.plain.map Sql.column ++ p.aggregates.map Aggregate.projection

/-- The names of the items shown, in order. -/
def outputs (p : Plan) : List Ident := p.plain ++ p.aggregates.map (·.label)

/-- What a reference to a column means: a grouped column itself, else the value of an aggregated
column. -/
def remap (p : Plan) (c : Ident) : Ident :=
  if p.groupBy.contains c then c
  else
    match p.aggregates.find? fun a => decide (a.source = c) with
    | some a => a.label
    | none => c

/-- The expression that the name of an item stands for. -/
def expression (p : Plan) (c : Ident) : Sql :=
  match p.aggregates.find? fun a => decide (a.label = c) with
  | some a => a.expression
  | none => Sql.column c

/-- Sort keys with their references resolved. -/
def remapKeys (p : Plan) (keys : List SortKey) : List SortKey :=
  keys.map fun k => { k with column := p.remap k.column }

/-- One condition on groups with its reference resolved. It has to be a grouped column or a
value. -/
def remapFilter (p : Plan) (f : ColumnFilter) : Except Refusal ColumnFilter :=
  let c := p.remap f.column
  let labels := p.aggregates.map (·.label)
  if p.groupBy.contains c || labels.contains c then .ok { f with column := c }
  else .error (.havingStranger f.column.text ((p.groupBy ++ labels).map (·.text)))

/-- Conditions on groups with their references resolved. -/
def remapHaving (p : Plan) (having : List ColumnFilter) : Except Refusal (List ColumnFilter) :=
  having.mapM p.remapFilter

/-- The conditions on groups. -/
def groupConditions (p : Plan) (having : List ColumnFilter) : Sql.Fragment :=
  Sql.conditions p.expression having

end Plan

end QueryGate
