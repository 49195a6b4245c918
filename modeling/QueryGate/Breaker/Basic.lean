import QueryGate.Span

set_option relaxedAutoImplicit false
set_option autoImplicit false

/-!
# The breaker

A breaker stands before the engine. Closed, it lets every call through and counts failures in a
row; at a set number it opens. Open, it refuses every call until a set time has passed, and then
lets one call through on trial. The trial's success closes the breaker and its failure opens it
again; while it runs, every other call is refused.

## Main definitions

* `QueryGate.Breaker` — the state of a breaker.
* `QueryGate.Breaker.arrive` — a call that arrives.
* `QueryGate.Breaker.settle`, `QueryGate.Breaker.cancel` — a call that ends, or is given up.
-/

namespace QueryGate

/-- What a breaker does with calls. -/
inductive Gate
  /-- Every call goes through. -/
  | closed
  /-- No call goes through. -/
  | opened
  /-- One call is on trial. -/
  | halfOpen
  deriving DecidableEq, Repr

/-- The name of a gate's position. -/
def Gate.text : Gate → String
  | closed => "CLOSED"
  | opened => "OPEN"
  | halfOpen => "HALF_OPEN"

/-- The settings of a breaker. -/
structure BreakerSettings where
  /-- The failures in a row at which the breaker opens. -/
  maxFailures : Nat := 5
  /-- How long the breaker stays open. -/
  timeout : Span := 30 * Span.second
  deriving DecidableEq, Repr

/-- The state of a breaker. -/
structure Breaker where
  /-- What the breaker does with calls. -/
  gate : Gate := .closed
  /-- The failures counted. -/
  failures : Nat := 0
  /-- When the breaker last opened. -/
  openedAt : Option Nat := none
  /-- Whether a trial is running. -/
  onTrial : Bool := false
  deriving DecidableEq, Repr

namespace Breaker

/-- What becomes of a call that arrives. -/
inductive Arrival
  /-- It goes through, on trial or not. -/
  | admitted (trial : Bool) (after : Breaker)
  /-- It is refused; it may try again after some time. -/
  | refused (retryAfter : Span)
  deriving DecidableEq, Repr

/-- A call that arrives at the time `now`. -/
def arrive (s : BreakerSettings) (now : Nat) (b : Breaker) : Arrival :=
  match b.gate with
  | .closed => .admitted false b
  | .opened =>
    match b.openedAt with
    | some t =>
      if now - t < s.timeout then .refused (s.timeout - (now - t))
      else .admitted true { b with gate := .halfOpen, onTrial := true }
    | none => .admitted true { b with gate := .halfOpen, onTrial := true }
  | .halfOpen =>
    if b.onTrial then .refused 0 else .admitted true { b with onTrial := true }

/-- The end of a trial, if the call was one. -/
def endTrial (trial : Bool) (b : Breaker) : Breaker :=
  if trial then { b with onTrial := false } else b

/-- A call that ends without a failure. -/
def succeed (trial : Bool) (b : Breaker) : Breaker :=
  let b := b.endTrial trial
  { b with gate := if b.gate = .halfOpen then .closed else b.gate, failures := 0 }

/-- A call that ends with a failure at the time `now`. A call let through before the breaker
opened changes nothing once it is open. -/
def fail (s : BreakerSettings) (now : Nat) (trial : Bool) (b : Breaker) : Breaker :=
  let b := b.endTrial trial
  match b.gate with
  | .closed =>
    let b := { b with failures := b.failures + 1 }
    if s.maxFailures ≤ b.failures then { b with gate := .opened, openedAt := some now } else b
  | .halfOpen => { b with failures := b.failures + 1, gate := .opened, openedAt := some now }
  | .opened => b

/-- A call that ends at the time `now`, with a failure or without. -/
def settle (s : BreakerSettings) (now : Nat) (trial failed : Bool) (b : Breaker) : Breaker :=
  if failed then b.fail s now trial else b.succeed trial

/-- A call that is given up at the time `now`. Only a trial given up counts as a failure. -/
def cancel (s : BreakerSettings) (now : Nat) (trial : Bool) (b : Breaker) : Breaker :=
  if trial then b.fail s now true else b

end Breaker

end QueryGate
