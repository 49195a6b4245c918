import QueryGate.Catalog.Dataset
import QueryGate.Json.Reader
import QueryGate.Text.Similarity

set_option relaxedAutoImplicit false
set_option autoImplicit false

/-!
# The catalog

All datasets, in the order of the manifest and each under a name of its own.

## Main definitions

* `QueryGate.Catalog` — the datasets.
* `QueryGate.Catalog.ofDatasets` — the catalog of a list of datasets.
* `QueryGate.Catalog.ofManifest` — the catalog of a manifest.
* `QueryGate.Catalog.get` — the dataset of a name, or what to say instead.
-/

namespace QueryGate

open Json Json.Shape

/-- All datasets, in order. -/
structure Catalog where
  /-- The datasets. -/
  datasets : List Dataset

namespace Catalog

/-- Refuses the first dataset with a bad name, without columns, or with a name that was there
before. -/
def checkFrom (seen : List String) : List Dataset → Except Failure Unit
  | [] => .ok ()
  | d :: rest => do
    (checkFileId d.fileId).mapError fun refusal => .config refusal.failure.display
    if d.columns.isEmpty then
      throw (.config ("Dataset '" ++ d.fileId ++ "' declares no columns"))
    if seen.contains d.fileId then
      throw (.config ("Duplicate file_id '" ++ d.fileId ++ "' in manifest"))
    checkFrom (d.fileId :: seen) rest

/-- The catalog of a list of datasets. -/
def ofDatasets (datasets : List Dataset) : Except Failure Catalog := do
  checkFrom [] datasets
  return ⟨datasets⟩

/-- A path as seen from a directory. An absolute path stays as it is. -/
def pathFrom (directory path : String) : String :=
  if directory.isEmpty || path.toList.head? = some '/' then path else directory ++ "/" ++ path

/-- The reader of a manifest. -/
def manifestShape : Shape (List Dataset) :=
  record "Manifest" [] [required "datasets" (list Dataset.shape) fun v _ => v]

/-- The catalog of a manifest called `name`. Paths in it are seen from its directory. -/
def ofManifest (name directory content : String) : Except Failure Catalog := do
  let refuse := fun reason => Failure.config ("Failed to parse " ++ name ++ ": " ++ reason)
  let (draft, rest) := readDraft content
  let datasets ← (manifestShape draft).mapError fun misfit => refuse misfit.message
  if !isEnd rest then throw (refuse Json.unread)
  ofDatasets (datasets.map fun d =>
    { d with storage := { d.storage with path := pathFrom directory d.storage.path } })

/-- The entries of all datasets. -/
def list (c : Catalog) : List Json := c.datasets.map Dataset.summary

/-- The names most like one that is not there, at most three of them. -/
def closest (c : Catalog) (fileId : String) : List String :=
  let scored := c.datasets.map fun d => (Text.editRatio fileId d.fileId, d.fileId)
  let near := scored.filter fun (score, _) => 0.5 ≤ score
  let precedes := fun (a b : Float × String) =>
    if b.1 < a.1 then true else if a.1 < b.1 then false else decide (a.2 ≤ b.2)
  ((near.mergeSort precedes).take 3).map (·.2)

/-- The dataset of a name. A bad name is refused; an unknown one is answered with those most like
it. -/
def get (c : Catalog) (fileId : String) : Except Failure Dataset := do
  (checkName .fileId fileId).mapError Refusal.failure
  match c.datasets.find? (·.fileId == fileId) with
  | some d => return d
  | none => throw (.notFound ("Unknown file_id '" ++ fileId ++ "'") (c.closest fileId))

end Catalog

end QueryGate
