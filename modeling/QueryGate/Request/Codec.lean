import QueryGate.Json.Shape
import QueryGate.Request.Comparison
import QueryGate.Request.Query

set_option relaxedAutoImplicit false
set_option autoImplicit false

/-!
# Requests as JSON

Requests are read from JSON records, in which most fields have defaults, and are written back with
every field filled in.

## Main definitions

* `QueryGate.QueryRequest.ofJson`, `QueryGate.QueryRequest.toJson`
* `QueryGate.ComparisonRequest.ofJson`, `QueryGate.ComparisonRequest.toJson`
-/

namespace QueryGate

open Json Json.Shape

namespace OrderSpec

/-- A sort order: null, one text, or a list of texts. -/
def ofJson : Json → Except Misfit OrderSpec
  | .null => .ok .none
  | .str s => .ok (.one s)
  | .arr items =>
    match items.mapM Json.text? with
    | some terms => .ok (.many terms)
    | .none => .error (.noAlternative "OrderBySpec")
  | _ => .error (.noAlternative "OrderBySpec")

/-- The reader of a sort order. All of it is read before its form is looked at. -/
def shape : Shape OrderSpec := fun d => do ofJson (← Shape.any d)

/-- A sort order as it is written. -/
def toJson : OrderSpec → Json
  | .none => .null
  | .one terms => .str terms
  | .many terms => .strings terms

end OrderSpec

namespace QueryRequest

/-- The fields of a request for rows. -/
def fields : List (RecordField QueryRequest) := [
  required "file_id" string fun v r => { r with fileId := v },
  withDefault "select" (list string) fun v r => { r with select := v },
  withDefault "where" object fun v r => { r with filters := v },
  withDefault "group_by" (list string) fun v r => { r with groupBy := v },
  withDefault "order_by" OrderSpec.shape fun v r => { r with orderBy := v },
  withDefault "limit" (nullable natural) fun v r => { r with limit := v },
  withDefault "offset" (nullable natural) fun v r => { r with offset := v },
  withDefault "aggregations" object fun v r => { r with aggregations := v },
  withDefault "having" object fun v r => { r with having := v }]

/-- The reader of a request for rows. -/
def shape : Shape QueryRequest := record "QueryRequest" { fileId := "" } fields

/-- A request for rows read from a value. -/
def ofJson (j : Json) : Except Misfit QueryRequest := shape.ofJson j

/-- A request for rows with every field filled in. -/
def toJson (r : QueryRequest) : Json := .obj [
  ("file_id", .str r.fileId), ("select", .strings r.select), ("where", .obj r.filters),
  ("group_by", .strings r.groupBy), ("order_by", r.orderBy.toJson), ("limit", .ofNat? r.limit),
  ("offset", .ofNat? r.offset), ("aggregations", .obj r.aggregations), ("having", .obj r.having)]

end QueryRequest

/-- The words for directions. -/
def Direction.words : List (String × Direction) := [("drop", .drop), ("rise", .rise)]

/-- The word for a direction. -/
def Direction.text : Direction → String
  | drop => "drop"
  | rise => "rise"

namespace ComparisonRequest

/-- The fields of a request to compare two years. -/
def fields : List (RecordField ComparisonRequest) := [
  required "file_id" string fun v r => { r with fileId := v },
  withDefault "where" object fun v r => { r with filters := v },
  required "key_col" string fun v r => { r with keyColumn := v },
  required "value_col" string fun v r => { r with valueColumn := v },
  withDefault "year_col" string fun v r => { r with yearColumn := v },
  required "base_year" signed fun v r => { r with baseYear := v },
  required "compare_year" signed fun v r => { r with compareYear := v },
  withDefault "top_n" (nullable natural) fun v r => { r with topCount := v },
  withDefault "direction" (word Direction.words) fun v r => { r with direction := v }]

/-- The reader of a request to compare two years. -/
def shape : Shape ComparisonRequest :=
  record "YoyRequest"
    { fileId := "", keyColumn := "", valueColumn := "", baseYear := 0, compareYear := 0 } fields

/-- A request to compare two years read from a value. -/
def ofJson (j : Json) : Except Misfit ComparisonRequest := shape.ofJson j

/-- A request to compare two years with every field filled in. -/
def toJson (r : ComparisonRequest) : Json := .obj [
  ("file_id", .str r.fileId), ("where", .obj r.filters), ("key_col", .str r.keyColumn),
  ("value_col", .str r.valueColumn), ("year_col", .str r.yearColumn),
  ("base_year", .int r.baseYear), ("compare_year", .int r.compareYear),
  ("top_n", .ofNat? r.topCount), ("direction", .str r.direction.text)]

end ComparisonRequest

end QueryGate
