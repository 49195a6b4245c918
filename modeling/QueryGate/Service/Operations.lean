import QueryGate.Cache.Key
import QueryGate.Request.Codec
import QueryGate.Service.Session
import QueryGate.Sql.Select

set_option relaxedAutoImplicit false
set_option autoImplicit false

/-!
# Operations of the service

What the service does for its callers. Answers with rows are kept in the cache; the coverage is
built when a request first names a place, and kept unless nothing of it could be loaded.

## Main definitions

* `QueryGate.Service.coverage` — the coverage, built if need be.
* `QueryGate.Service.query`, `QueryGate.Service.compare` — answers with rows.
* `QueryGate.Service.resolve`, `QueryGate.Service.schema`, `QueryGate.Service.listFiles`
* `QueryGate.Service.runTool`, `QueryGate.Service.callTool`, `QueryGate.Service.chatTurn` — the
  operations that a model asks for.
-/

namespace QueryGate.Service

/-! ## Coverage -/

/-- How far a coverage is built. -/
structure Building where
  /-- The names found. -/
  entries : List (Level × String) := []
  /-- The columns loaded. -/
  loaded : Nat := 0
  /-- The columns that could not be loaded. -/
  skipped : Nat := 0

/-- The texts in the first cells of rows. -/
def firstTexts (rows : RowSet) : List String :=
  rows.rows.filterMap fun row => row.head?.bind Json.text?

/-- The statement for the names of a level in a dataset. -/
def coverageStatement (reader : Sql.Reader) (dataset : Dataset) (level : Level) :
    Except Failure Statement := do
  let column ← (Ident.column level.column).mapError Refusal.failure
  distinctStatement dataset.storage.table column reader

/-- The columns that hold names of places, by dataset and then by level. -/
def coverageColumns (catalog : Catalog) : List (Dataset × Level) :=
  catalog.datasets.flatMap fun d =>
    (Level.priority.filter fun level => d.hasColumn level.column).map (d, ·)

/-- A building with one more column. A failure passes the column over. -/
def loadColumn (svc : Service) (building : Building) (column : Dataset × Level) :
    Session Building := do
  let (dataset, level) := column
  let loaded ← Session.attempt do
    let statement ← Session.ofExcept (coverageStatement svc.reader dataset level)
    svc.runStatement dataset statement
  match loaded with
  | .ok rows =>
    return { building with
      entries := building.entries ++ (firstTexts rows).map (level, ·)
      loaded := building.loaded + 1 }
  | .error _ => return { building with skipped := building.skipped + 1 }

/-- The coverage, built if it is not there yet. Where every column failed it is empty for now, and
the next request builds it again. -/
def coverage (svc : Service) : Session Coverage := do
  match (← get).coverage with
  | some c => return c
  | none =>
    let building ← (coverageColumns svc.catalog).foldlM (loadColumn svc) {}
    if building.loaded = 0 && 0 < building.skipped then return .empty
    else
      let c := Coverage.ofEntries building.entries
      modify fun s => { s with coverage := some c }
      return c

/-- Filters with the names of places in them resolved, and the resolutions that callers should
know of. The coverage is asked for only where a filter names a place. -/
def substitute (svc : Service) (filters : List ColumnFilter) :
    Session (List ColumnFilter × List Resolution) := do
  if filters.any ColumnFilter.namesPlaces then
    let c ← svc.coverage
    return svc.resolver.substitute c filters
  else return (filters, [])

/-! ## Answers with rows -/

/-- The answer kept under a key, if it is still good. -/
def cached (svc : Service) (key : String) : Session (Option Json) := do
  let s ← get
  let (hit, cache) := s.cache.get svc.cache s.now key
  set { s with cache }
  return hit

/-- Keeps an answer under a key. -/
def keep (svc : Service) (key : String) (answer : Json) : Session Unit :=
  modify fun s => { s with cache := s.cache.set svc.cache s.now key answer }

/-- The answer kept for an operation with its arguments, or a new one, which is kept. -/
def answered (svc : Service) (operation : String) (args : Json) (compute : Session Json) :
    Session Json := do
  let key := cacheKey operation args
  match ← svc.cached key with
  | some hit => return hit
  | none =>
    let answer ← compute
    svc.keep key answer
    return answer

/-- An answer with rows, with more members before its last. -/
def rowsAnswer (dataset : Dataset) (rows : RowSet) (more : List (String × Json))
    (resolutions : List Resolution) : Json :=
  .obj ([("row_count", .ofNat rows.rows.length), ("rows", .arr rows.records)] ++ more ++
    [("meta", dataset.answerMeta (resolutions.map Resolution.toJson))])

/-- The rows of a request. -/
def query (svc : Service) (request : QueryRequest) : Session Json := do
  let dataset ← Session.ofExcept (svc.catalog.get request.fileId)
  let q ← Session.ofExcept ((request.check svc.limits).mapError Refusal.failure)
  svc.answered "query" request.toJson do
    let (filters, resolutions) ← svc.substitute q.filters
    let statement ←
      Session.ofExcept (Query.statement dataset.storage.table { q with filters } svc.reader)
    let rows ← svc.runStatement dataset statement
    return rowsAnswer dataset rows [] resolutions

/-- The comparison of two years that a request asks for. -/
def compare (svc : Service) (request : ComparisonRequest) : Session Json := do
  let dataset ← Session.ofExcept (svc.catalog.get request.fileId)
  match ← Session.ofExcept ((request.check svc.limits).mapError Refusal.failure) with
  | none => throw .crashed
  | some c =>
    svc.answered "yoy" request.toJson do
      let (filters, resolutions) ← svc.substitute c.filters
      let statement ←
        Session.ofExcept (Comparison.statement dataset.storage.table { c with filters } svc.reader)
      let rows ← svc.runStatement dataset statement
      let years := [("base_year", Json.int c.baseYear), ("compare_year", .int c.compareYear)]
      return rowsAnswer dataset rows years resolutions

/-! ## Other operations -/

/-- The place that a name means. -/
def resolve (svc : Service) (request : ResolveRequest) : Session Resolution := do
  let c ← svc.coverage
  return svc.resolver.resolve c request.name request.level

/-- All that callers may know about a dataset. -/
def schema (svc : Service) (fileId : String) : Session Json := do
  return (← Session.ofExcept (svc.catalog.get fileId)).schema

/-- The list of all datasets. -/
def listFiles (svc : Service) : Json := .arr svc.catalog.list

/-- The version of the service. -/
def version : String := "0.3.0"

/-- Whether the service is there. -/
def health : Json := .obj [("status", .str "ok"), ("version", .str version)]

/-- The operation that a model asks for. -/
def runTool (svc : Service) : ToolCall → Session Json
  | .query request => svc.query request
  | .comparison request => svc.compare request
  | .listFiles => return svc.listFiles
  | .schema fileId => svc.schema fileId
  | .resolve request => do return (← svc.resolve request).toJson

/-- The operation that a name and arguments stand for. -/
def callTool (svc : Service) (name arguments : String) : Session Json := do
  let tool ← Session.ofExcept ((ToolCall.decode name arguments).mapError Refusal.failure)
  svc.runTool tool

/-- One call of a tool with its result or its failure. -/
def runCall (svc : Service) (call : Chat.Call) : Session Json := do
  let outcome ← Session.attempt (svc.callTool call.name call.arguments)
  let ending :=
    match outcome with
    | .ok result => ("result", result)
    | .error failure => ("error", failure.response)
  return .obj [("id", .str call.id), ("name", .str call.name), ending]

/-- What the chat service says to a conversation. The waits between attempts take their time. -/
def completion (svc : Service) (chat : ChatSetup) (messages : List Chat.Message) :
    Session Chat.Reply := do
  let s ← get
  let (ending, waits, line) := Chat.complete chat.settings chat.policy svc.jitter messages s.line
  set { s with line, now := waits.foldl (· + ·) s.now }
  match ending with
  | .value reply => return reply
  | .failure failure => Session.fail failure
  | .overflow => throw .crashed

/-- One turn of a conversation: a text, or every call of a tool in the order asked for, with its
result or its failure. -/
def chatTurn (svc : Service) (messages : List Chat.Message) : Session Json := do
  match svc.chat with
  | none => Session.fail (.config "Chat gateway is not configured")
  | some chat =>
    match ← svc.completion chat messages with
    | .text s => return .obj [("reply", .str s)]
    | .calls calls => return .obj [("tool_results", .arr (← calls.mapM svc.runCall))]

end QueryGate.Service
