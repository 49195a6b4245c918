import QueryGate.Ident
import QueryGate.Json.Shape

set_option relaxedAutoImplicit false
set_option autoImplicit false

/-!
# Datasets

A dataset is a table in a database file, with a description of its columns and of what its values
mean.

## Main definitions

* `QueryGate.Dataset` — a dataset.
* `QueryGate.Dataset.shape` — the reader of a dataset from its descriptor.
* `QueryGate.Dataset.summary`, `QueryGate.Dataset.schema`, `QueryGate.Dataset.answerMeta` — what
  callers are told about a dataset.
-/

namespace QueryGate

open Json Json.Shape

/-- Where the rows of a dataset are. -/
structure Storage where
  /-- The database file. -/
  path : String
  /-- The table. -/
  table : Ident
  deriving DecidableEq

/-- A column of a dataset. -/
structure Column where
  /-- The name. -/
  name : Ident
  /-- The type, in the engine's words. -/
  dataType : String
  /-- What the column holds. -/
  description : Option String
  /-- The unit of its values. -/
  unit : Option String
  deriving DecidableEq

/-- The years that a dataset covers. -/
structure YearRange where
  /-- The first year. -/
  first : Int
  /-- The last year. -/
  last : Int
  deriving DecidableEq, Repr

/-- What the values of a dataset mean. -/
structure Semantics where
  /-- The unit of the values. -/
  units : Option String := none
  /-- Where the values come from. -/
  source : Option String := none
  /-- The size of the places that values belong to. -/
  spatialResolution : Option String := none
  /-- The length of the times that values belong to. -/
  temporalResolution : Option String := none
  /-- The years covered. -/
  coverage : Option YearRange := none
  deriving DecidableEq, Repr

/-- A dataset. -/
structure Dataset where
  /-- The name of the dataset. -/
  fileId : String
  /-- What the dataset holds. -/
  description : Option String
  /-- Where its rows are. -/
  storage : Storage
  /-- Its columns. -/
  columns : List Column
  /-- What its values mean. -/
  semantics : Semantics
  deriving DecidableEq

/-! ## Reading descriptors -/

/-- The name of a column or a table. -/
def identShape : Shape Ident := fun d => do
  (Ident.column (← string d)).mapError fun refusal => .refused refusal.failure.display

/-- A word that stands for itself. -/
private def engineWords : List (String × Unit) := [("duckdb", ())]

/-- A name for the time before a record has one. -/
private def blankIdent : Ident := ⟨"_", by decide⟩

/-- The reader of a column. -/
def Column.shape : Shape Column :=
  record "ColumnInfo" ⟨blankIdent, "", none, none⟩ [
    required "name" identShape fun v c => { c with name := v },
    required "type" string fun v c => { c with dataType := v },
    withDefault "description" (nullable string) fun v c => { c with description := v },
    withDefault "unit" (nullable string) fun v c => { c with unit := v }]

/-- The reader of a range of years. -/
def YearRange.shape : Shape YearRange :=
  record "YearRange" ⟨0, 0⟩ [
    required "start" signed fun v r => { r with first := v },
    required "end" signed fun v r => { r with last := v }]

/-- The reader of what values mean. -/
def Semantics.shape : Shape Semantics :=
  record "Semantics" {} [
    withDefault "units" (nullable string) fun v s => { s with units := v },
    withDefault "source" (nullable string) fun v s => { s with source := v },
    withDefault "spatial_resolution" (nullable string) fun v s => { s with spatialResolution := v },
    withDefault "temporal_resolution" (nullable string)
      fun v s => { s with temporalResolution := v },
    withDefault "coverage" (nullable YearRange.shape) fun v s => { s with coverage := v }]

/-- The reader of a storage. There is one kind of engine. -/
def Storage.shape : Shape Storage :=
  record "StorageLocator" ⟨"", blankIdent⟩ [
    required "engine" (word engineWords) fun _ s => s,
    required "path" (text "path string") fun v s => { s with path := v },
    required "table" identShape fun v s => { s with table := v }]

/-- The reader of a dataset. -/
def Dataset.shape : Shape Dataset :=
  record "DatasetDescriptor" ⟨"", none, ⟨"", blankIdent⟩, [], {}⟩ [
    required "file_id" string fun v d => { d with fileId := v },
    withDefault "description" (nullable string) fun v d => { d with description := v },
    required "storage" Storage.shape fun v d => { d with storage := v },
    required "columns" (list Column.shape) fun v d => { d with columns := v },
    withDefault "semantics" Semantics.shape fun v d => { d with semantics := v }]

/-! ## What callers are told -/

/-- A member that stands there only when it has a value. -/
def presentText (key : String) : Option String → List (String × Json)
  | some s => [(key, .str s)]
  | none => []

/-- A column as callers see it. -/
def Column.toJson (c : Column) : Json :=
  .obj ([("name", .str c.name.text), ("type", .str c.dataType)] ++
    presentText "description" c.description ++ presentText "unit" c.unit)

/-- What values mean as callers see it. -/
def Semantics.toJson (s : Semantics) : Json := .obj [
  ("units", .ofText? s.units), ("source", .ofText? s.source),
  ("spatial_resolution", .ofText? s.spatialResolution),
  ("temporal_resolution", .ofText? s.temporalResolution),
  ("coverage", match s.coverage with
    | some r => .obj [("start", .int r.first), ("end", .int r.last)]
    | none => .null)]

namespace Dataset

/-- Whether a dataset has a column. -/
def hasColumn (d : Dataset) (name : String) : Bool := d.columns.any (·.name.text == name)

/-- The names of a dataset's columns. -/
def columnNames (d : Dataset) : List String := d.columns.map (·.name.text)

/-- The entry of a dataset in the list of all datasets. -/
def summary (d : Dataset) : Json :=
  .obj ([("file_id", .str d.fileId)] ++ presentText "description" d.description ++
    [("columns", .strings d.columnNames), ("semantics", d.semantics.toJson)])

/-- All that callers may know about a dataset. -/
def schema (d : Dataset) : Json :=
  .obj ([("file_id", .str d.fileId), ("table_id", .str d.storage.table.text)] ++
    presentText "description" d.description ++
    [("columns", .arr (d.columns.map Column.toJson)), ("semantics", d.semantics.toJson)])

/-- What goes with every answer of rows, and the resolutions that callers should know of. -/
def answerMeta (d : Dataset) (resolutions : List Json) : Json :=
  .obj ([("units", .ofText? d.semantics.units), ("source", .ofText? d.semantics.source),
      ("spatial_resolution", .ofText? d.semantics.spatialResolution),
      ("temporal_resolution", .ofText? d.semantics.temporalResolution),
      ("table_id", .str d.storage.table.text)] ++
    (if resolutions.isEmpty then [] else [("resolution", .arr resolutions)]))

end Dataset

end QueryGate
