import QueryGate.Decimal.Notation
import QueryGate.Json.Basic
import QueryGate.Word

set_option relaxedAutoImplicit false
set_option autoImplicit false

/-!
# Failures

Every answer that is not a result is a failure of one of seven kinds. A caller branches on the
kind: it decides the code on the wire, the status of an answer over the network, and whether
trying the same request again is of use.

## Main definitions

* `QueryGate.Failure` — a failure with what the caller is told.
* `QueryGate.Failure.code`, `QueryGate.Failure.status` — the kind on the wire.
* `QueryGate.Failure.isRetryable` — whether the same request may succeed later.
* `QueryGate.Failure.display`, `QueryGate.Failure.response` — the failure as one line and as the
  body of an answer.
-/

namespace QueryGate

/-- The stable codes of failures. -/
inductive Code
  /-- A bad name, an oversized input or an operator that is not allowed. -/
  | validation
  /-- An unknown dataset, or a column or table that the engine does not have. -/
  | notFound
  /-- An engine failure of no known kind. -/
  | execution
  /-- The breaker is open, or no connection is free. -/
  | unavailable
  /-- A deadline has passed. -/
  | timeout
  /-- The settings or the manifest are at fault. -/
  | config
  /-- The chat service refused or answered nonsense. -/
  | upstream
  deriving DecidableEq, Repr

namespace Code

/-- The code on the wire. -/
def text : Code → String
  | validation => "validation_error"
  | notFound => "not_found"
  | execution => "execution_error"
  | unavailable => "unavailable"
  | timeout => "timeout"
  | config => "config_error"
  | upstream => "upstream_error"

/-- Whether the same request may succeed later. -/
def isRetryable : Code → Bool
  | unavailable | timeout | execution => true
  | _ => false

/-- The status of an answer over the network. -/
def status : Code → Nat
  | validation => 400
  | notFound => 404
  | execution | config => 500
  | upstream => 502
  | unavailable => 503
  | timeout => 504

end Code

/-- A failure with what the caller is told. -/
inductive Failure
  /-- The request itself is at fault. All problems are listed when there are several. -/
  | validation (detail : String) (hint : Option String) (violations : List String)
  /-- Something named in the request is not there; the suggestions are. -/
  | notFound (detail : String) (suggestions : List String)
  /-- The engine failed. -/
  | execution (detail : String)
  /-- The engine or the chat service cannot take the request now. -/
  | unavailable (detail : String) (retryAfter : Float)
  /-- A deadline has passed. -/
  | timeout (detail : String)
  /-- The settings or the manifest are at fault. -/
  | config (detail : String)
  /-- The chat service refused or answered nonsense. -/
  | upstream (detail : String)

namespace Failure

/-- The code of a failure. -/
def code : Failure → Code
  | validation .. => .validation
  | notFound .. => .notFound
  | execution _ => .execution
  | unavailable .. => .unavailable
  | timeout _ => .timeout
  | config _ => .config
  | upstream _ => .upstream

/-- What went wrong. -/
def detail : Failure → String
  | validation detail _ _ => detail
  | notFound detail _ => detail
  | execution detail => detail
  | unavailable detail _ => detail
  | timeout detail => detail
  | config detail => detail
  | upstream detail => detail

/-- Whether the same request may succeed later. -/
def isRetryable (f : Failure) : Bool := f.code.isRetryable

/-- The failure as one line. -/
def display : Failure → String
  | validation detail _ _ => "Validation error: " ++ detail
  | notFound detail _ => "Not found: " ++ detail
  | execution detail => "Execution error: " ++ detail
  | unavailable detail after =>
    "Unavailable: " ++ detail ++ " (retry after " ++ Decimal.fixed 1 after ++ "s)"
  | timeout detail => "Timeout: " ++ detail
  | config detail => "Config error: " ++ detail
  | upstream detail => "Upstream error: " ++ detail

/-- What the caller may do about it. -/
def hint : Failure → Option String
  | validation _ hint _ => hint
  | notFound _ [] => none
  | notFound _ _ => some "Use one of the suggested names"
  | unavailable .. => some "The data engine is recovering; retry later"
  | timeout _ => some "Narrow the filters or lower the limit before retrying"
  | _ => none

/-- A member of an answer that stands there only when it has a value. -/
def present (key : String) : Option Json → List (String × Json)
  | some j => [(key, j)]
  | none => []

/-- The problems of a request, when there are several. -/
def context : Failure → Option Json
  | validation _ _ violations =>
    if 1 < violations.length then some (.obj [("violations", .strings violations)]) else none
  | _ => none

/-- The names that the caller may have meant. -/
def suggestions : Failure → List String
  | notFound _ suggestions => suggestions
  | _ => []

/-- The seconds after which the caller may try again. -/
def retryAfter : Failure → Option Float
  | unavailable _ after => some after
  | _ => none

/-- The failure as the body of an answer. -/
def response (f : Failure) : Json :=
  .obj <|
    [("error", .str f.code.text), ("detail", .str f.detail)] ++
    present "hint" (f.hint.map .str) ++
    present "context" f.context ++
    present "suggestions"
      (if f.suggestions.isEmpty then none else some (.strings f.suggestions)) ++
    present "retry_after" (f.retryAfter.map .ofFloat)

/-- The header that says when to try again: whole seconds, rounded up, at least one. Beyond 64
bits the number stays at the largest. -/
def retryHeader (f : Failure) : Option String :=
  f.retryAfter.map fun after =>
    let whole :=
      match Decimal.read after with
      | .finite false ⟨m, q, _⟩ =>
        let unit := Decimal.twoTo (-q).toNat
        min Word.maxUnsigned ((m * Decimal.twoTo q.toNat + unit - 1) / unit)
      | .infinite false => Word.maxUnsigned
      | _ => 0
    toString (max 1 whole)

end Failure

end QueryGate
