import QueryGate.Failure
import QueryGate.Json.Writer

set_option relaxedAutoImplicit false
set_option autoImplicit false

/-!
# Requests and responses

What comes in over the network and what goes out.

## Main definitions

* `QueryGate.Http.Request`, `QueryGate.Http.Response`
* `QueryGate.Http.Response.ofJson`, `QueryGate.Http.Response.ofFailure` — a result and a failure
  as they go out.
-/

namespace QueryGate.Http

/-- What comes in. -/
structure Request where
  /-- The method. -/
  method : String
  /-- The path, perhaps with a scheme and a host before it and a query after it. -/
  target : String
  /-- The header that names the type of the body. -/
  contentType : Option String := none
  /-- The body. -/
  body : String := ""
  deriving DecidableEq, Repr

/-- What goes out. -/
structure Response where
  /-- The status. -/
  status : Nat
  /-- The header that names the type of the body. -/
  contentType : Option String := none
  /-- The header that says when to try again. -/
  retryAfter : Option String := none
  /-- The body. -/
  body : String := ""
  deriving DecidableEq, Repr

/-- The characters in the name of a scheme. -/
def staysInScheme (c : Char) : Bool := c.isAlphanum || ['+', '-', '.', '~'].contains c

/-- A target without the scheme and the host, which may stand before the path. -/
def withoutHost (target : List Char) : List Char :=
  match target.dropWhile staysInScheme with
  | ':' :: '/' :: '/' :: rest => rest.dropWhile fun c => c != '/' && c != '?' && c != '#'
  | _ => target

/-- The path of a request, without the query. -/
def Request.path (r : Request) : String :=
  String.ofList ((withoutHost r.target.toList).takeWhile fun c => c != '?' && c != '#')

namespace Response

/-- A result as it goes out. -/
def ofJson (j : Json) : Response where
  status := 200
  contentType := some "application/json"
  body := j.render

/-- A failure as it goes out. -/
def ofFailure (f : Failure) : Response where
  status := f.code.status
  contentType := some "application/json"
  retryAfter := f.retryHeader
  body := f.response.render

/-- A plain text as it goes out. -/
def ofText (status : Nat) (text : String) : Response where
  status := status
  contentType := some "text/plain; charset=utf-8"
  body := text

/-- A response without its body. -/
def withoutBody (r : Response) : Response := { r with body := "" }

end Response

end QueryGate.Http
