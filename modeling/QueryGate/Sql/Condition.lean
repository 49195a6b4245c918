import QueryGate.Filter.Basic
import QueryGate.Sql.Text

set_option relaxedAutoImplicit false
set_option autoImplicit false

/-!
# Conditions as statement text

Conditions on rows and on groups, as text with places for literals and as the literals for those
places in order.

## Main definitions

* `QueryGate.Condition.sql` — the text of one condition on a target.
* `QueryGate.Sql.Fragment` — text with the literals for its places.
* `QueryGate.Sql.conditions` — all conditions of some filters, joined.
* `QueryGate.Sql.IsWritable` — whether filters can be written in the language.
-/

namespace QueryGate

open Sql in
/-- The text of one condition on a target. -/
def Condition.sql (target : Sql) : Condition → Sql
  | scalar _ => target ++ word " = " ++ [.slot]
  | isNull => target ++ word " IS NULL"
  | inSet values => target ++ word " IN (" ++ slots values.length ++ word ")"
  | between _ _ => target ++ word " BETWEEN " ++ [.slot] ++ word " AND " ++ [.slot]
  | compare op _ => target ++ word (" " ++ op.sign ++ " ") ++ [.slot]
  | contains _ => word "CAST(" ++ target ++ word " AS VARCHAR) LIKE " ++ [.slot]

namespace Sql

/-- Statement text with the literals for its places, in order. -/
structure Fragment where
  /-- The text. -/
  sql : Sql
  /-- The literals for the places in the text. -/
  params : List Literal

/-- Whether a fragment holds no text. -/
def Fragment.isEmpty (f : Fragment) : Bool := f.sql.isEmpty

/-- All conditions of some filters, joined. `target` is what the column of a filter stands for. -/
def conditions (target : Ident → Sql) (filters : List ColumnFilter) : Fragment where
  sql := sepBy " AND " (filters.flatMap fun f => f.conditions.map (Condition.sql (target f.column)))
  params := filters.flatMap fun f => f.conditions.flatMap Condition.literals

/-- Whether filters can be written in the language, which has no empty lists of values. -/
def IsWritable (filters : List ColumnFilter) : Prop :=
  ∀ f ∈ filters, Condition.inSet [] ∉ f.conditions

/-- The conditions on rows. -/
def rowConditions (filters : List ColumnFilter) : Fragment := conditions column filters

end Sql

end QueryGate
