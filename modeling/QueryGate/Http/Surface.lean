import QueryGate.Http.Body
import QueryGate.Service.Operations
import QueryGate.Text.Percent

set_option relaxedAutoImplicit false
set_option autoImplicit false

/-!
# The surface over the network

The paths that the service answers on, each with one method. Every result and every failure goes
out as JSON, with a status that the kind of the failure decides.

## Main definitions

* `QueryGate.Http.Route` — the paths.
* `QueryGate.Http.answer` — the response to a request.
-/

namespace QueryGate.Http

open Json Json.Shape

/-- The paths. -/
inductive Route
  /-- Rows of one dataset. -/
  | query
  /-- A comparison of two years. -/
  | comparison
  /-- The place that a name means. -/
  | resolve
  /-- One turn of a conversation. -/
  | chat
  /-- The list of datasets. -/
  | listFiles
  /-- What callers may know about one dataset, named by the last part of the path as written. -/
  | schema (part : String)
  /-- Whether the service is there. -/
  | health
  deriving DecidableEq, Repr

namespace Route

/-- The path that a text is. -/
def ofPath? (path : String) : Option Route :=
  match path with
  | "/query" => some query
  | "/metrics/yoy" => some comparison
  | "/resolve" => some resolve
  | "/chat" => some chat
  | "/list_files" => some listFiles
  | "/health" => some health
  | other =>
    match "/get_schema/".toList.isPrefixOf? other.toList with
    | some part =>
      if part.isEmpty || part.contains '/' then none else some (schema (String.ofList part))
    | none => none

/-- Whether requests to a path bring a body. -/
def takesBody : Route → Bool
  | query | comparison | resolve | chat => true
  | _ => false

/-- Whether a path is asked for with a method. -/
def allows (route : Route) (method : String) : Bool :=
  if route.takesBody then method == "POST" else method == "GET" || method == "HEAD"

end Route

/-- The reader of a request to resolve a name. -/
def resolveShape : Shape ResolveRequest :=
  record "ResolveRequest" { name := "" } ResolveRequest.fields

/-- The reader of a conversation. -/
def chatShape : Shape (List Chat.Message) :=
  record "ChatRequest" [] [required "messages" (list Chat.Message.shape) fun v _ => v]

/-- The value of a body as a step. -/
def bodyOf {α : Type} (shape : Shape α) (r : Request) : Service.Session α :=
  Service.Session.ofExcept ((r.read shape).mapError Refusal.failure)

/-- A refusal as a step. -/
def refuse {α : Type} (refusal : Refusal) : Service.Session α :=
  Service.Session.fail refusal.failure

/-- The result of a request to a path whose last part is decoded. -/
def result (svc : Service) (r : Request) : Route → Service.Session Json
  | .query => do svc.query (← bodyOf QueryRequest.shape r)
  | .comparison => do svc.compare (← bodyOf ComparisonRequest.shape r)
  | .resolve => do
    let request ← bodyOf resolveShape r
    if Text.isBlankText request.name then refuse .blankName
    Service.Session.ofExcept ((checkText request.name).mapError Refusal.failure)
    return (← svc.resolve request).toJson
  | .chat => do
    let messages ← bodyOf chatShape r
    if messages.isEmpty then refuse .noMessages
    svc.chatTurn messages
  | .listFiles => return svc.listFiles
  | .schema fileId => svc.schema fileId
  | .health => return Service.health

/-- The response of a path whose last part is decoded. -/
def respond (svc : Service) (r : Request) (route : Route) : Service.Session Response := do
  match ← Service.Session.attempt (result svc r route) with
  | .ok j => return .ofJson j
  | .error failure => return .ofFailure failure

/-- The response of a path. A last part that stands for no text is refused in plain words. -/
def respondDecoded (svc : Service) (r : Request) : Route → Service.Session Response
  | .schema part =>
    match Text.percentDecoded? part with
    | some fileId => respond svc r (.schema fileId)
    | none => return .ofText 400 "Invalid URL: Invalid UTF-8 in `file_id`"
  | route => respond svc r route

/-- The response to a request. Unknown paths and wrong methods get none but a status, and a request
for headers alone gets no body. -/
def answer (svc : Service) (r : Request) : Service.Session Response := do
  match Route.ofPath? r.path with
  | none => return { status := 404 }
  | some route =>
    if !route.allows r.method then return { status := 405 }
    let response ← respondDecoded svc r route
    return if r.method == "HEAD" then response.withoutBody else response

end QueryGate.Http
