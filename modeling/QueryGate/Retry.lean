import QueryGate.Failure
import QueryGate.Span
import QueryGate.Word

set_option relaxedAutoImplicit false
set_option autoImplicit false

/-!
# Trying again

An operation that fails for the moment is tried again after a wait. The wait doubles with each
attempt up to a ceiling, with some jitter, and is never shorter than the failure itself asks for.

## Main definitions

* `QueryGate.RetryPolicy` — how often and how long.
* `QueryGate.RetryPolicy.delay` — the wait after an attempt.
* `QueryGate.RetryPolicy.wait?` — the wait after an attempt that failed in some way.
* `QueryGate.RetryPolicy.run` — an operation tried again as the policy says.
-/

namespace QueryGate

/-- How often and how long to try again. -/
structure RetryPolicy where
  /-- The most attempts; there is always one. -/
  maxAttempts : Nat := 3
  /-- Half the wait after the first attempt, in milliseconds. -/
  baseDelay : Nat := 200
  /-- The longest wait, in milliseconds. -/
  maxDelay : Nat := 5000
  deriving DecidableEq, Repr

namespace RetryPolicy

/-- The wait after attempt number `attempt`, in milliseconds. Numbers beyond 64 bits stay at the
largest. `jitter` is at most the base delay. -/
def delay (p : RetryPolicy) (jitter attempt : Nat) : Nat :=
  let factor := min Word.maxUnsigned (Decimal.twoTo (min attempt 64))
  let doubled := min Word.maxUnsigned (p.baseDelay * factor)
  min (min Word.maxUnsigned (doubled + jitter)) p.maxDelay

/-- The wait after attempt number `attempt` that failed with `f`; nothing where the failure asks
for a wait that is no length of time. -/
def wait? (p : RetryPolicy) (jitter attempt : Nat) (f : Failure) : Option Span :=
  let own := Span.ofMillis (p.delay jitter attempt)
  match f.retryAfter with
  | some seconds => (Span.ofSeconds? seconds).map (max own ·)
  | none => some own

/-- How an operation ends that is tried again. -/
inductive Ending (α : Type)
  /-- With a value. -/
  | value (a : α)
  /-- With a failure. -/
  | failure (f : Failure)
  /-- In a wait that is no length of time. -/
  | overflow

/-- An operation tried again as the policy says. It is told the state and gives its outcome and
the next state. `waits` are the waits so far, backwards; the fuel is the number of attempts
left. -/
def runFrom {σ α : Type} (p : RetryPolicy) (jitter : Nat → Nat)
    (operation : σ → Except Failure α × σ) :
    Nat → Nat → List Span → σ → Ending α × List Span × σ
  | left, attempt, waits, s =>
    match operation s with
    | (.ok a, s) => (.value a, waits.reverse, s)
    | (.error f, s) =>
      if !f.isRetryable then (.failure f, waits.reverse, s)
      else
        match left with
        | 0 => (.failure f, waits.reverse, s)
        | left + 1 =>
          match p.wait? (jitter (attempt + 1)) (attempt + 1) f with
          | none => (.overflow, waits.reverse, s)
          | some wait => runFrom p jitter operation left (attempt + 1) (wait :: waits) s

/-- An operation tried again as the policy says, with the waits between attempts. -/
def run {σ α : Type} (p : RetryPolicy) (jitter : Nat → Nat) (operation : σ → Except Failure α × σ)
    (s : σ) : Ending α × List Span × σ :=
  p.runFrom jitter operation (max 1 p.maxAttempts - 1) 0 [] s

end RetryPolicy

end QueryGate
