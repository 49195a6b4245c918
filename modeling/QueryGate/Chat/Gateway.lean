import QueryGate.Chat.Tool
import QueryGate.Http.Status
import QueryGate.Retry

set_option relaxedAutoImplicit false
set_option autoImplicit false

/-!
# The chat gateway

The way to a service that completes conversations. It answers with a text or with calls of tools,
or it fails: for the moment, in which case it is asked again, or for good.

## Main definitions

* `QueryGate.Chat.Reply` — what a completion says.
* `QueryGate.Chat.Exchange` — what comes back over the network.
* `QueryGate.Chat.complete` — one completion, asked for again as the policy says.
-/

namespace QueryGate.Chat

open Json Json.Shape

/-- The settings of the gateway. -/
structure Settings where
  /-- Where the service is. -/
  baseUrl : String := "https://api.openai.com/v1"
  /-- The key to it. -/
  apiKey : Option String := none
  /-- The model to ask. -/
  model : String := "gpt-4o-mini"
  /-- The most requests at a time; at least one is allowed. -/
  maxInFlight : Nat := 8
  /-- How long a request may take. -/
  timeout : Span := 60 * Span.second
  deriving DecidableEq, Repr

/-- A message of a conversation. -/
structure Message where
  /-- Who says it. -/
  role : String
  /-- What is said. -/
  content : String
  deriving DecidableEq, Repr

/-- The reader of a message. -/
def Message.shape : Shape Message :=
  record "ChatMessage" ⟨"", ""⟩ [
    required "role" string fun v m => { m with role := v },
    required "content" string fun v m => { m with content := v }]

/-- A message as JSON. -/
def Message.toJson (m : Message) : Json :=
  .obj [("role", .str m.role), ("content", .str m.content)]

/-- A call of a tool that the model asks for. -/
structure Call where
  /-- The name that the model gives the call. -/
  id : String
  /-- The tool. -/
  name : String
  /-- The arguments as JSON text. -/
  arguments : String
  deriving DecidableEq, Repr

/-- What a completion says. -/
inductive Reply
  /-- A text. -/
  | text (s : String)
  /-- Calls of tools. -/
  | calls (calls : List Call)
  deriving DecidableEq, Repr

/-- What comes back over the network. -/
inductive Exchange
  /-- A response with its status, the header that says when to try again, and its body. -/
  | response (status : Nat) (retryAfter : Option String) (body : String)
  /-- There is no connection. -/
  | unreachable (reason : String)
  /-- The transport gave up waiting. -/
  | timedOut (reason : String)
  /-- The transport failed in another way. -/
  | broken (reason : String)
  /-- Nothing comes back. -/
  | silence
  deriving DecidableEq, Repr

/-- A request to the service. -/
structure Sent where
  /-- Where it goes. -/
  url : String
  /-- The key. -/
  bearer : String
  /-- The model asked. -/
  model : String
  /-- The conversation. -/
  messages : List Message
  deriving DecidableEq, Repr

/-- How much the model may vary its answers. -/
def temperature : Float := 0.1

/-- The body of a request. -/
def Sent.body (s : Sent) : Json := .obj [
  ("model", .str s.model), ("messages", .arr (s.messages.map Message.toJson)),
  ("tools", .arr toolDefinitions), ("temperature", .float temperature)]

/-- The network as a gateway sees it: what will come back, and what was sent, the last first. -/
structure Line where
  /-- What will come back, one for each request; after that only empty responses. -/
  incoming : List Exchange := []
  /-- What was sent, the last first. -/
  outgoing : List Sent := []

/-- Sends a request and takes what comes back. -/
def Line.exchange (sent : Sent) (line : Line) : Exchange × Line :=
  match line.incoming with
  | e :: rest => (e, ⟨rest, sent :: line.outgoing⟩)
  | [] => (.response 200 none "", ⟨[], sent :: line.outgoing⟩)

/-- A call of a tool read from a reply. It has to name the tool. -/
def Call.ofJson (j : Json) : Except Failure Call :=
  let function := j.get "function"
  match (function.get "name").text? with
  | some name =>
    .ok ⟨((j.get "id").text?).getD "", name, ((function.get "arguments").text?).getD "\x7b\x7d"⟩
  | none => .error (.upstream "Tool call without a function name")

/-- The reply in the payload of a response: calls of tools if there are any, else the text. -/
def Reply.ofJson (payload : Json) : Except Failure Reply :=
  let message := ((payload.get "choices").item 0).get "message"
  match message.get "tool_calls", (message.get "content").text? with
  | .arr (c :: cs), _ => ((c :: cs).mapM Call.ofJson).map Reply.calls
  | _, some s => .ok (.text s)
  | _, none => .error (.upstream "No content in chat response")

/-- The seconds in the header that says when to try again, if they can be read. -/
def headerSeconds (header : Option String) : Option Float := header.bind Decimal.float?

/-- The failure of a response whose status is no success. -/
def refusedBy (status : Nat) (header : Option String) (body : String) : Failure :=
  let detail := "Chat API returned " ++ Http.statusLine status ++ ": " ++
    String.ofList (body.toList.take 200)
  if status = 429 || status / 100 = 5 then
    .unavailable detail ((headerSeconds header).getD 1.0)
  else .upstream detail

/-- What comes back, read as a reply. Where a body goes wrong that is not JSON is not told. -/
def Exchange.reply (s : Settings) : Exchange → Except Failure Reply
  | response status header body =>
    if status / 100 ≠ 2 then .error (refusedBy status header body)
    else
      match read? body with
      | some payload => Reply.ofJson payload
      | none => .error (.upstream ("Failed to parse chat response: " ++ Json.unread))
  | unreachable reason => .error (.unavailable ("Chat API unreachable: " ++ reason) 1.0)
  | timedOut reason => .error (.timeout ("Chat completion timed out: " ++ reason))
  | broken reason => .error (.upstream ("Chat API call failed: " ++ reason))
  | silence => .error (.timeout ("Chat completion exceeded " ++ Span.text s.timeout))

/-- A text without the slashes at its end. -/
def withoutSlashes (s : String) : String :=
  String.ofList (s.toList.reverse.dropWhile (· == '/')).reverse

/-- One completion. Without a key nothing is sent. -/
def completeOnce (s : Settings) (messages : List Message) (line : Line) :
    Except Failure Reply × Line :=
  match s.apiKey with
  | none => (.error (.config "No chat API key configured"), line)
  | some key =>
    let sent := ⟨withoutSlashes s.baseUrl ++ "/chat/completions", key, s.model, messages⟩
    let (e, line) := line.exchange sent
    (e.reply s, line)

/-- One completion, asked for again as the policy says. -/
def complete (s : Settings) (policy : RetryPolicy) (jitter : Nat → Nat)
    (messages : List Message) (line : Line) : RetryPolicy.Ending Reply × List Span × Line :=
  policy.run jitter (completeOnce s messages) line

end QueryGate.Chat
