import QueryGate.Span

set_option relaxedAutoImplicit false
set_option autoImplicit false

/-!
# Faults of the engine

What the engine, or the way to it, reports when a statement has no rows.

## Main definitions

* `QueryGate.EngineFault` — the report.
* `QueryGate.EngineFault.display` — the report as one text.
-/

namespace QueryGate

/-- What the engine, or the way to it, reports when a statement has no rows. -/
inductive EngineFault
  /-- The statement ran past its deadline. -/
  | timeout (deadline : Span)
  /-- No connection became free in time. -/
  | poolExhausted (waited : Span)
  /-- A connection could not be made. -/
  | connection (message : String)
  /-- The engine refused the statement or failed to run it. -/
  | engine (message : String)
  deriving DecidableEq, Repr

namespace EngineFault

/-- The report as one text. -/
def display : EngineFault → String
  | timeout deadline => "query exceeded " ++ Span.text deadline
  | poolExhausted waited =>
    "no pooled connection became available within " ++ Span.text waited
  | connection message => "connection failure: " ++ message
  | engine message => message

/-- The kind of a report. -/
def kind : EngineFault → String
  | timeout _ => "timeout"
  | poolExhausted _ => "pool_exhausted"
  | connection _ => "connection"
  | engine _ => "engine"

end EngineFault

end QueryGate
