import QueryGate.Ident

set_option relaxedAutoImplicit false
set_option autoImplicit false

/-!
# Limits on requests

The ceilings on the size of a request, and how many rows an answer may have. Sizes and names are
checked together, so that a caller learns of all problems at once.

## Main definitions

* `QueryGate.Ceilings` — the most columns and filters of a request.
* `QueryGate.Ceilings.check` — the check of sizes and names.
* `QueryGate.Limits` — the ceilings with the limits on rows.
* `QueryGate.Limits.rows` — the number of rows that a request gets.
-/

namespace QueryGate

/-- The most columns and filters of a request. -/
structure Ceilings where
  /-- The most columns selected. -/
  select : Nat := 50
  /-- The most columns grouped by. -/
  groupBy : Nat := 50
  /-- The most columns filtered. -/
  filters : Nat := 20
  deriving DecidableEq, Repr

namespace Ceilings

/-- The problem of a list longer than its ceiling, if it is. -/
def excess (what : String) (length ceiling : Nat) : List String :=
  if ceiling < length then
    ["Too many " ++ what ++ ": " ++ toString length ++ " (max: " ++ toString ceiling ++ ")"]
  else []

/-- The problem of a column's name, if it has one. -/
def nameProblem (name : String) : Option String :=
  (nameFault? identLimit name).map (NameFault.message .column name)

/-- All problems of a request: the ceilings exceeded, then the bad names, each name once. -/
def problems (c : Ceilings) (select filterKeys groupBy others : List String) : List String :=
  excess "select columns" select.length c.select ++
  excess "group_by columns" groupBy.length c.groupBy ++
  excess "filter keys" filterKeys.length c.filters ++
  (select ++ filterKeys ++ groupBy ++ others).eraseDups.filterMap nameProblem

/-- Refuses a request whose lists are too long or hold a bad name. -/
def check (c : Ceilings) (select filterKeys groupBy others : List String) :
    Except Refusal Unit :=
  match c.problems select filterKeys groupBy others with
  | [] => .ok ()
  | [problem] => .error (.oneProblem problem)
  | all => .error (.problems all c.select c.groupBy c.filters)

end Ceilings

/-- The limits on requests and on the rows of an answer. -/
structure Limits where
  /-- The ceilings on the size of a request. -/
  ceilings : Ceilings := {}
  /-- The rows of an answer when the request does not say. -/
  defaultRows : Nat := 1000
  /-- The most rows of an answer. -/
  maxRows : Nat := 10000
  deriving DecidableEq, Repr

/-- The number of rows that a request gets. -/
def Limits.rows (l : Limits) (requested : Option Nat) : Nat :=
  min (requested.getD l.defaultRows) l.maxRows

end QueryGate
