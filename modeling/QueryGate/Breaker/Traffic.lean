import QueryGate.Breaker.Basic

set_option relaxedAutoImplicit false
set_option autoImplicit false

/-!
# Traffic through a breaker

Calls arrive at a breaker, run side by side for as long as they like, and end or are given up in
any order while time passes.

## Main definitions

* `QueryGate.Traffic` — a breaker, the time, and the calls that are running.
* `QueryGate.Traffic.Event` — what may happen next.
* `QueryGate.Traffic.step` — what an event does, and what becomes of its call.
-/

namespace QueryGate

/-- How a call ends. -/
inductive CallEnd
  /-- With an answer. -/
  | answered
  /-- With a fault that counts as a failure. -/
  | failed
  /-- With a fault that does not. -/
  | defective
  deriving DecidableEq, Repr

/-- Whether an end counts as a failure. -/
def CallEnd.isFailure : CallEnd → Bool
  | failed => true
  | _ => false

/-- A breaker, the time, and the calls that are running, each with whether it is on trial. -/
structure Traffic where
  /-- The breaker. -/
  breaker : Breaker := {}
  /-- The time. -/
  now : Nat := 0
  /-- The calls that are running, by name. -/
  running : List (String × Bool) := []
  deriving DecidableEq, Repr

namespace Traffic

/-- What may happen next. -/
inductive Event
  /-- A call arrives and, if let through, ends at once. -/
  | call (how : CallEnd)
  /-- A call arrives and, if let through, goes on running. -/
  | start (id : String)
  /-- A running call ends. -/
  | finish (id : String) (how : CallEnd)
  /-- A running call is given up. -/
  | cancel (id : String)
  /-- Time passes. -/
  | pass (time : Span)
  deriving DecidableEq, Repr

/-- What becomes of the call of an event. -/
inductive Outcome
  /-- The call has ended. -/
  | ended (how : CallEnd)
  /-- The call was refused. -/
  | refused (retryAfter : Span)
  /-- The call is running. -/
  | running
  /-- The call was given up. -/
  | cancelled
  /-- There is no such call. -/
  | unknown
  /-- There was no call. -/
  | nothing
  deriving DecidableEq, Repr

/-- Gives up a running call, if there is one of that name. -/
def giveUp (s : BreakerSettings) (id : String) (t : Traffic) : Traffic :=
  match t.running.lookup id with
  | some trial =>
    { t with
      breaker := t.breaker.cancel s t.now trial
      running := t.running.filter (·.1 != id) }
  | none => t

/-- What an event does, and what becomes of its call. -/
def step (s : BreakerSettings) (t : Traffic) : Event → Outcome × Traffic
  | .call how =>
    match t.breaker.arrive s t.now with
    | .refused after => (.refused after, t)
    | .admitted trial b => (.ended how, { t with breaker := b.settle s t.now trial how.isFailure })
  | .start id =>
    match t.breaker.arrive s t.now with
    | .refused after => (.refused after, t)
    | .admitted trial b =>
      let t := { t with breaker := b }.giveUp s id
      (.running, { t with running := (id, trial) :: t.running })
  | .finish id how =>
    match t.running.lookup id with
    | none => (.unknown, t)
    | some trial =>
      (.ended how,
        { t with
          breaker := t.breaker.settle s t.now trial how.isFailure
          running := t.running.filter (·.1 != id) })
  | .cancel id =>
    match t.running.lookup id with
    | none => (.unknown, t)
    | some _ => (.cancelled, t.giveUp s id)
  | .pass time => (.nothing, { t with now := t.now + time })

/-- The traffic after a list of events. -/
def run (s : BreakerSettings) (t : Traffic) (events : List Event) : Traffic :=
  events.foldl (fun t e => (t.step s e).2) t

end Traffic

end QueryGate
