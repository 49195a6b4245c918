import QueryGate.Breaker.Basic
import QueryGate.Cache.Basic
import QueryGate.Catalog.Basic
import QueryGate.Chat.Gateway
import QueryGate.Engine.Diagnosis
import QueryGate.Engine.RowSet
import QueryGate.Geo.Resolver
import QueryGate.Limits
import QueryGate.Sql.Select

set_option relaxedAutoImplicit false
set_option autoImplicit false

/-!
# Sessions of the service

What the service is made of, what it remembers between requests, and the steps that a request is
made of. A step ends with a value, with a failure, or not at all: its caller may give it up while
the engine is silent, and some settings leave no answer.

## Main definitions

* `QueryGate.Service` — what the service is made of.
* `QueryGate.Service.State` — what it remembers.
* `QueryGate.Service.Session` — a step of a request.
* `QueryGate.Service.runStatement` — a statement sent to the engine, through the breaker.
-/

namespace QueryGate

/-- What the engine answers to one statement. -/
inductive EngineReply
  /-- Rows. -/
  | rows (rows : RowSet)
  /-- A fault. -/
  | fault (fault : EngineFault)
  /-- Nothing, ever. -/
  | silence

/-- The settings of a chat gateway with its retry policy. -/
structure ChatSetup where
  /-- The gateway. -/
  settings : Chat.Settings
  /-- How it asks again. -/
  policy : RetryPolicy := {}

/-- What the service is made of. -/
structure Service where
  /-- The datasets. -/
  catalog : Catalog
  /-- What reads a statement before it is sent. -/
  reader : Sql.Reader
  /-- The service's own statements are read as queries. -/
  taken : reader.TakesBuilt
  /-- The limits on requests. -/
  limits : Limits := {}
  /-- The breaker before the engine. -/
  breaker : BreakerSettings := {}
  /-- The cache of results. -/
  cache : CacheSettings := {}
  /-- The resolver of names of places. -/
  resolver : Resolver := {}
  /-- The chat gateway, if there is one. -/
  chat : Option ChatSetup := none
  /-- The jitter in the waits of the chat gateway, by attempt. -/
  jitter : Nat → Nat := fun _ => 0

namespace Service

/-- A statement that reached the engine. -/
structure Sent where
  /-- The table behind the dataset. -/
  storage : Storage
  /-- The statement. -/
  statement : Statement

/-- What the service remembers. -/
structure State where
  /-- The breaker. -/
  breaker : Breaker := {}
  /-- The cache of results. -/
  cache : Cache Json := {}
  /-- The coverage, once it is built. -/
  coverage : Option Coverage := none
  /-- The time. -/
  now : Nat := 0
  /-- What the engine will answer, one for each statement; after that no rows. -/
  replies : List EngineReply := []
  /-- The statements that reached the engine, the last first. -/
  sent : List Sent := []
  /-- The network as the chat gateway sees it. -/
  line : Chat.Line := {}

/-- Why a step has no value. -/
inductive Halt
  /-- The caller is told of a failure. -/
  | failed (failure : Failure)
  /-- The caller gave the step up while the engine was silent. -/
  | abandoned
  /-- The settings leave no answer. -/
  | crashed

/-- A step of a request. What it has done to the state stays done when it has no value. -/
abbrev Session (α : Type) := ExceptT Halt (StateM State) α

namespace Session

/-- A step that fails. -/
def fail {α : Type} (failure : Failure) : Session α := throw (.failed failure)

/-- A value or a failure as a step. -/
def ofExcept {α : Type} : Except Failure α → Session α
  | .ok a => return a
  | .error failure => fail failure

/-- The end of a step as a value: its own value, or its failure. -/
def attempt {α : Type} (step : Session α) : Session (Except Failure α) :=
  tryCatch (Except.ok <$> step) fun halt =>
    match halt with
    | .failed failure => return .error failure
    | other => throw other

end Session

/-- The failure of a request that the breaker refuses. -/
def refusedByBreaker (retryAfter : Span) : Failure :=
  let seconds := Span.seconds retryAfter
  .unavailable "Data engine temporarily unavailable (circuit breaker open)"
    (if seconds < 0.1 then 0.1 else seconds)

/-- What the engine answers next. -/
def State.reply (s : State) : EngineReply :=
  match s.replies with
  | r :: _ => r
  | [] => .rows ⟨[], []⟩

/-- A statement sent to the engine, through the breaker. While the engine is silent the call is
given up. -/
def runStatement (svc : Service) (dataset : Dataset) (statement : Statement) : Session RowSet := do
  let s ← get
  match s.breaker.arrive svc.breaker s.now with
  | .refused after => Session.fail (refusedByBreaker after)
  | .admitted trial b =>
    let after := fun b => { s with
      breaker := b, replies := s.replies.tail, sent := ⟨dataset.storage, statement⟩ :: s.sent }
    match s.reply with
    | .rows rows =>
      set (after (b.settle svc.breaker s.now trial false))
      return rows
    | .fault fault =>
      set (after (b.settle svc.breaker s.now trial fault.trips))
      Session.fail fault.failure
    | .silence =>
      set (after (b.cancel svc.breaker s.now trial))
      throw .abandoned

end Service

end QueryGate
