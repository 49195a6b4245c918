import QueryGate.Json.Basic

set_option relaxedAutoImplicit false
set_option autoImplicit false

/-!
# Rows

The rows that the engine answers with, under the names that it gives the columns.

## Main definitions

* `QueryGate.RowSet` — names and rows.
* `QueryGate.RowSet.records` — each row as an object.
-/

namespace QueryGate

/-- The names of columns and the rows under them. -/
structure RowSet where
  /-- The names of the columns. -/
  columns : List String
  /-- The rows, each in the order of the columns. -/
  rows : List (List Json)

namespace RowSet

/-- A row as an object. A repeated column keeps its first place and its last value. -/
def record (columns : List String) (row : List Json) : Json.Members :=
  Json.Members.ofList (columns.zip row)

/-- Each row as an object. -/
def records (r : RowSet) : List Json := r.rows.map fun row => .obj (record r.columns row)

end RowSet

end QueryGate
