import QueryGate.Breaker.Basic
import QueryGate.Cache.Basic
import QueryGate.Chat.Gateway
import QueryGate.Engine.Pool
import QueryGate.Limits

set_option relaxedAutoImplicit false
set_option autoImplicit false

/-!
# Settings

All settings of the service, and the arguments that they are made from. Arguments give lengths of
time in seconds, and numbers that may be too small for the service.

## Main definitions

* `QueryGate.Arguments` — the arguments with their defaults.
* `QueryGate.Settings` — the settings.
* `QueryGate.Arguments.settings?` — the settings that arguments stand for.
-/

namespace QueryGate

/-- The arguments with their defaults. -/
structure Arguments where
  /-- The address to listen at. -/
  bindAddress : String := "127.0.0.1:8080"
  /-- The file that lists the datasets. -/
  manifest : String := "manifest.json"
  /-- The connections to each database file. -/
  poolSize : Nat := 4
  /-- The seconds to wait for a connection. -/
  acquireSeconds : Float := 5.0
  /-- The seconds that a statement may run. -/
  querySeconds : Float := 30.0
  /-- The most answers in the cache. -/
  cacheCapacity : Nat := 256
  /-- The seconds that an answer is good for. -/
  cacheSeconds : Float := 300.0
  /-- The failures in a row at which the breaker opens. -/
  breakerFailures : Nat := 5
  /-- The seconds that the breaker stays open. -/
  breakerSeconds : Float := 30.0
  /-- The rows of an answer when the request does not say. -/
  defaultLimit : Nat := 1000
  /-- The most rows of an answer. -/
  maxLimit : Nat := 10000
  /-- Where the chat service is. -/
  chatBaseUrl : String := "https://api.openai.com/v1"
  /-- The key to the chat service. -/
  chatApiKey : Option String := none
  /-- The model to ask. -/
  chatModel : String := "gpt-4o-mini"
  /-- The most requests to the chat service at a time. -/
  chatMaxInFlight : Nat := 8
  /-- The seconds that a request to the chat service may take. -/
  chatSeconds : Float := 60.0
  /-- Whether the log is written as JSON. -/
  logJson : Bool := false

/-- All settings of the service. -/
structure Settings where
  /-- The address to listen at. -/
  bindAddress : String
  /-- The file that lists the datasets. -/
  manifest : String
  /-- The pool of each database file. -/
  pool : PoolSettings
  /-- The cache of answers. -/
  cache : CacheSettings
  /-- The breaker before the engine. -/
  breaker : BreakerSettings
  /-- The limits on requests. -/
  limits : Limits
  /-- The chat gateway. -/
  chat : Chat.Settings
  /-- Whether the log is written as JSON. -/
  logJson : Bool
  deriving DecidableEq, Repr

/-- The settings that arguments stand for; nothing where a number of seconds is no length of
time. -/
def Arguments.settings? (a : Arguments) : Option Settings := do
  let acquireTimeout ← Span.ofSeconds? a.acquireSeconds
  let queryTimeout ← Span.ofSeconds? a.querySeconds
  let ttl ← Span.ofSeconds? a.cacheSeconds
  let breakerTimeout ← Span.ofSeconds? a.breakerSeconds
  let chatTimeout ← Span.ofSeconds? a.chatSeconds
  return {
    bindAddress := a.bindAddress
    manifest := a.manifest
    pool := { size := max 1 a.poolSize, acquireTimeout, queryTimeout }
    cache := { capacity := max 1 a.cacheCapacity, ttl }
    breaker := { maxFailures := max 1 a.breakerFailures, timeout := breakerTimeout }
    limits := { defaultRows := min a.defaultLimit a.maxLimit, maxRows := a.maxLimit }
    chat := {
      baseUrl := a.chatBaseUrl, apiKey := a.chatApiKey, model := a.chatModel,
      maxInFlight := max 1 a.chatMaxInFlight, timeout := chatTimeout }
    logJson := a.logJson }

end QueryGate
