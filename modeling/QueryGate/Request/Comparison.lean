import QueryGate.Filter.Reading
import QueryGate.Limits

set_option relaxedAutoImplicit false
set_option autoImplicit false

/-!
# Comparison requests

A request to rank the entries of a column by how much a value has changed between two years.

## Main definitions

* `QueryGate.ComparisonRequest` — a request as written.
* `QueryGate.Comparison` — a checked request.
* `QueryGate.ComparisonRequest.check` — the comparison of a request.
-/

namespace QueryGate

/-- Which change comes first. -/
inductive Direction
  /-- The largest decrease. -/
  | drop
  /-- The largest increase. -/
  | rise
  deriving DecidableEq, Repr

/-- A request to compare two years as written. -/
structure ComparisonRequest where
  /-- The dataset. -/
  fileId : String
  /-- The conditions on rows, by column. -/
  filters : List (String × Json) := []
  /-- The column whose entries are ranked. -/
  keyColumn : String
  /-- The column whose value is compared. -/
  valueColumn : String
  /-- The column that holds the year. -/
  yearColumn : String := "year"
  /-- The first year. -/
  baseYear : Int
  /-- The second year. -/
  compareYear : Int
  /-- How many entries are wanted. -/
  topCount : Option Nat := none
  /-- Which change comes first. -/
  direction : Direction := .drop

/-- A checked request to compare two years. -/
structure Comparison where
  /-- The column whose entries are ranked. -/
  keyColumn : Ident
  /-- The column whose value is compared. -/
  valueColumn : Ident
  /-- The column that holds the year. -/
  yearColumn : Ident
  /-- The first year. -/
  baseYear : Int
  /-- The second year. -/
  compareYear : Int
  /-- The conditions on rows. -/
  filters : List ColumnFilter
  /-- How many entries are shown. -/
  topCount : Nat
  /-- Which change comes first. -/
  direction : Direction

/-- How many entries are shown when the request does not say. -/
def defaultTopCount : Nat := 10

/-- A number brought between one and a ceiling; nothing where the ceiling is below one. -/
def clampTop (requested : Option Nat) (ceiling : Nat) : Option Nat :=
  if 1 ≤ ceiling then some (min (max (requested.getD defaultTopCount) 1) ceiling) else none

/-- The comparison of a request; nothing where no number of entries is allowed at all. -/
def ComparisonRequest.check (limits : Limits) (r : ComparisonRequest) :
    Except Refusal (Option Comparison) := do
  limits.ceilings.check [r.keyColumn, r.valueColumn, r.yearColumn] (r.filters.map (·.1)) [] []
  if r.baseYear = r.compareYear then throw .sameYears
  let keyColumn ← Ident.column r.keyColumn
  let valueColumn ← Ident.column r.valueColumn
  let yearColumn ← Ident.column r.yearColumn
  let filters ← readFilters r.filters
  return (clampTop r.topCount limits.maxRows).map fun topCount => {
    keyColumn, valueColumn, yearColumn, baseYear := r.baseYear, compareYear := r.compareYear,
    filters, topCount, direction := r.direction }

end QueryGate
