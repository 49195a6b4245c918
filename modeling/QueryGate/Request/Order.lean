import QueryGate.Refusal
import QueryGate.Text.Blank
import QueryGate.Text.Case

set_option relaxedAutoImplicit false
set_option autoImplicit false

/-!
# Sort orders in requests

A sort order is written as one text with commas between its terms or as a list of terms. A term is
a column, a column with a direction, or a column with a hyphen before it, which sorts the largest
first.

## Main definitions

* `QueryGate.OrderSpec` — a sort order as written.
* `QueryGate.SortTerm` — a column and its direction, the column not checked yet.
* `QueryGate.OrderSpec.parse` — the terms of a sort order.
-/

namespace QueryGate

/-- A sort order as written. -/
inductive OrderSpec
  | none
  | one (terms : String)
  | many (terms : List String)
  deriving DecidableEq, Repr

/-- A column and its direction, the column not checked yet. -/
structure SortTerm where
  /-- The column. -/
  column : String
  /-- Whether the largest comes first. -/
  descending : Bool
  deriving DecidableEq, Repr

/-- The term that a text writes. -/
def SortTerm.parse (term : String) : Except Refusal SortTerm :=
  match Text.words term with
  | [c] =>
    match c.toList with
    | '-' :: rest => .ok ⟨String.ofList rest, true⟩
    | _ => .ok ⟨c, false⟩
  | [c, direction] =>
    if Text.sameAscii direction "desc" then .ok ⟨c, true⟩
    else if Text.sameAscii direction "asc" then .ok ⟨c, false⟩
    else .error (.badOrder term)
  | _ => .error (.badOrder term)

namespace OrderSpec

/-- The texts of the terms, without white space around them and without empty ones. -/
def terms (spec : OrderSpec) : List String :=
  let written :=
    match spec with
    | none => []
    | one terms => Text.fields ',' terms
    | many terms => terms
  (written.map Text.trim).filter (!·.isEmpty)

/-- The terms of a sort order. -/
def parse (spec : OrderSpec) : Except Refusal (List SortTerm) := spec.terms.mapM SortTerm.parse

end OrderSpec

end QueryGate
