import QueryGate.Decimal.Notation
import QueryGate.Ident

set_option relaxedAutoImplicit false
set_option autoImplicit false

/-!
# Filters

A filter is a column with conditions on it, all of which have to hold. The values in conditions
are literals, which are handed to the engine apart from the text of a statement.

## Main definitions

* `QueryGate.Literal` — a value handed to the engine.
* `QueryGate.Condition` — one condition on a column.
* `QueryGate.ColumnFilter` — a column and its conditions.
* `QueryGate.ColumnFilter.texts`, `QueryGate.ColumnFilter.mapTexts` — the texts compared for
  equality, and the filter with each of them replaced.
-/

namespace QueryGate

/-- A value handed to the engine. -/
inductive Literal
  | text (s : String)
  | integer (n : Int)
  | float (x : Float)
  | bool (b : Bool)

namespace Literal

/-- The text of a literal that is one. -/
def text? : Literal → Option String
  | text s => some s
  | _ => none

/-- A literal in words, as it is looked for inside a text. -/
def display : Literal → String
  | text s => s
  | integer n => toString n
  | float x => Decimal.plain x
  | bool true => "true"
  | bool false => "false"

/-- A literal with its text replaced, if it is one. -/
def mapText (f : String → String) : Literal → Literal
  | text s => text (f s)
  | other => other

end Literal

/-- A comparison by order. -/
inductive Comparator
  | atLeast
  | atMost
  | above
  | below
  deriving DecidableEq, Repr

/-- The sign of a comparison. -/
def Comparator.sign : Comparator → String
  | atLeast => ">="
  | atMost => "<="
  | above => ">"
  | below => "<"

/-- One condition on a column. -/
inductive Condition
  /-- Equality with a value. -/
  | scalar (value : Literal)
  /-- Absence of a value. -/
  | isNull
  /-- Equality with one of several values. -/
  | inSet (values : List Literal)
  /-- Lying between two values, both included. -/
  | between (low high : Literal)
  /-- Comparison with a value. -/
  | compare (op : Comparator) (value : Literal)
  /-- Holding a text somewhere inside. -/
  | contains (part : String)

namespace Condition

/-- The texts that a condition compares for equality, in order. -/
def texts : Condition → List String
  | scalar value => value.text?.toList
  | inSet values => values.filterMap Literal.text?
  | _ => []

/-- A condition with every text compared for equality replaced. -/
def mapTexts (f : String → String) : Condition → Condition
  | scalar value => scalar (value.mapText f)
  | inSet values => inSet (values.map (Literal.mapText f))
  | other => other

/-- The literals that a condition hands to the engine, in the order of their places. -/
def literals : Condition → List Literal
  | scalar value => [value]
  | isNull => []
  | inSet values => values
  | between low high => [low, high]
  | compare _ value => [value]
  | contains part => [.text ("%" ++ part ++ "%")]

end Condition

/-- A column and its conditions, all of which have to hold. -/
structure ColumnFilter where
  /-- The column. -/
  column : Ident
  /-- The conditions, in the order written. -/
  conditions : List Condition

namespace ColumnFilter

/-- The texts that a filter compares for equality, in order. -/
def texts (f : ColumnFilter) : List String := f.conditions.flatMap Condition.texts

/-- A filter with every text compared for equality replaced. -/
def mapTexts (g : String → String) (f : ColumnFilter) : ColumnFilter :=
  { f with conditions := f.conditions.map (Condition.mapTexts g) }

end ColumnFilter

end QueryGate
