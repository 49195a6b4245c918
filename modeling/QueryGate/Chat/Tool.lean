import QueryGate.Geo.Level
import QueryGate.Json.Reader
import QueryGate.Request.Codec

set_option relaxedAutoImplicit false
set_option autoImplicit false

/-!
# Tools

The operations that a model may ask for, with arguments given as JSON text.

## Main definitions

* `QueryGate.ToolCall` — an operation with its arguments.
* `QueryGate.ToolCall.decode` — the operation that a name and arguments stand for.
* `QueryGate.toolDefinitions` — the tools as a model is told of them.
-/

namespace QueryGate

open Json Json.Shape

/-- A name to resolve, at one level or at any. -/
structure ResolveRequest where
  /-- The name. -/
  name : String
  /-- The level. -/
  level : Option Level := none
  deriving DecidableEq, Repr

/-- The fields of a request to resolve a name. -/
def ResolveRequest.fields : List (RecordField ResolveRequest) := [
  required "name" string fun v r => { r with name := v },
  withDefault "level" (nullable (word Level.words)) fun v r => { r with level := v }]

/-- An operation that a model may ask for. -/
inductive ToolCall
  /-- Rows of one dataset. -/
  | query (request : QueryRequest)
  /-- A comparison of two years. -/
  | comparison (request : ComparisonRequest)
  /-- The list of datasets. -/
  | listFiles
  /-- What callers may know about one dataset. -/
  | schema (fileId : String)
  /-- The place that a name means. -/
  | resolve (request : ResolveRequest)

namespace ToolCall

/-- The operation that a name and arguments read from JSON stand for. -/
def ofJson (name : String) (args : Json) : Except Refusal ToolCall :=
  let fits := fun {α : Type} (shape : Shape α) =>
    (shape.ofJson args).mapError fun misfit => Refusal.toolMisfit name misfit.message
  match name with
  | "query_dataset" => (fits QueryRequest.shape).map query
  | "yoy_metric" => (fits ComparisonRequest.shape).map comparison
  | "list_files" => .ok listFiles
  | "get_schema" =>
    (fits (record "GetSchemaArgs" "" [required "file_id" string fun v _ => v])).map schema
  | "resolve_entity" =>
    (fits (record "ResolveArgs" { name := "" } ResolveRequest.fields)).map resolve
  | other => .error (.unknownTool other)

/-- The operation that a name and arguments stand for. Blank arguments are an empty object. -/
def decode (name arguments : String) : Except Refusal ToolCall :=
  if arguments.toList.all Text.isBlank then ofJson name (.obj [])
  else
    match read? arguments with
    | some args => ofJson name args
    | none => .error (.toolNotJson name)

end ToolCall

/-! ## Definitions -/

/-- A type of JSON values as a model is told of it. -/
def typed (type : String) (more : List (String × Json)) : Json :=
  .obj (("type", .str type) :: more)

/-- A list of texts as a model is told of it. -/
def typedTexts : Json := typed "array" [("items", typed "string" [])]

/-- An object of filters as a model is told of it. -/
def typedFilters : Json :=
  typed "object" [("description", .str ("column -> value, list (IN), null (IS NULL) or " ++
    "\x7beq|in|between|gte|lte|gt|lt|contains: operand\x7d"))]

/-- One of several words as a model is told of it. -/
def typedWord (words : List String) : Json := typed "string" [("enum", .strings words)]

/-- A record as a model is told of it. -/
def typedRecord (properties : List (String × Json)) (needed : List String) : Json :=
  typed "object" (("properties", .obj properties) ::
    if needed.isEmpty then [] else [("required", .strings needed)])

/-- A tool as a model is told of it. -/
def toolDefinition (name description : String) (parameters : Json) : Json :=
  typed "function" [("function", .obj [
    ("name", .str name), ("description", .str description), ("parameters", parameters)])]

/-- The tools as a model is told of them. -/
def toolDefinitions : List Json := [
  toolDefinition "query_dataset" "Select, filter, group and aggregate rows of one dataset"
    (typedRecord [
      ("file_id", typed "string" []), ("select", typedTexts), ("where", typedFilters),
      ("group_by", typedTexts),
      ("aggregations", typed "object" [
        ("description", .str "column -> sum|avg|count|distinct|min|max|std|variance")]),
      ("having", typedFilters), ("order_by", typed "string" []), ("limit", typed "integer" []),
      ("offset", typed "integer" [])] ["file_id"]),
  toolDefinition "yoy_metric" "Rank entities by the change in a value between two years"
    (typedRecord [
      ("file_id", typed "string" []), ("where", typedFilters), ("key_col", typed "string" []),
      ("value_col", typed "string" []), ("base_year", typed "integer" []),
      ("compare_year", typed "integer" []), ("top_n", typed "integer" []),
      ("direction", typedWord ["drop", "rise"])]
      ["file_id", "key_col", "value_col", "base_year", "compare_year"]),
  toolDefinition "list_files" "List available datasets" (typedRecord [] []),
  toolDefinition "get_schema" "Columns and semantics of one dataset"
    (typedRecord [("file_id", typed "string" [])] ["file_id"]),
  toolDefinition "resolve_entity" "Normalize a place name and detect its level"
    (typedRecord [
      ("name", typed "string" []), ("level", typedWord ["country", "admin1", "city"])] ["name"])]

end QueryGate
