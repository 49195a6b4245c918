import QueryGate.Http.MediaType
import QueryGate.Http.Message
import QueryGate.Json.Reader
import QueryGate.Json.Shape
import QueryGate.Refusal

set_option relaxedAutoImplicit false
set_option autoImplicit false

/-!
# Bodies of requests

A body is declared as JSON, has a bounded length, and is taken for a value of some shape in the
order written. What is wrong first is what the caller is told: that the text cannot be read, or that
it does not have the shape.

## Main definitions

* `QueryGate.Http.Request.isDeclared` — whether a body is declared as JSON.
* `QueryGate.Http.Request.bodyLimit` — how long a body may be.
* `QueryGate.Http.Request.read` — the value of a body.
-/

namespace QueryGate.Http.Request

open Json

/-- Whether a body is declared as JSON. -/
def isDeclared (r : Request) : Bool :=
  match r.contentType.bind MediaType.ofText? with
  | some t => t.isJson
  | none => false

/-- The value of a text that stands for one of some shape. -/
def readText {α : Type} (shape : Shape α) (text : String) : Except Refusal α :=
  let (draft, rest) := readDraft text
  match shape draft with
  | .ok a => if isEnd rest then .ok a else .error .bodyNotJson
  | .error misfit => .error (if misfit.isBreak then .bodyNotJson else .bodyMisfit misfit.message)

/-- The most bytes that a body may have. -/
def bodyLimit : Nat := 2097152

/-- The value of a body. -/
def read {α : Type} (shape : Shape α) (r : Request) : Except Refusal α :=
  if !r.isDeclared then .error .bodyUndeclared
  else if bodyLimit < r.body.utf8ByteSize then .error .bodyTooLong
  else readText shape r.body

end QueryGate.Http.Request
