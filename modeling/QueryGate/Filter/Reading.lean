import QueryGate.Filter.Basic
import QueryGate.Text.Case
import QueryGate.Value
import QueryGate.Word

set_option relaxedAutoImplicit false
set_option autoImplicit false

/-!
# Reading filters

Filters are written as an object from columns to values. A plain value stands for equality, a list
for equality with one of its items, null for the absence of a value, and an object for one
condition per operator.

## Main definitions

* `QueryGate.Literal.ofJson` — a single value as a literal.
* `QueryGate.Condition.ofOperator` — an operator with its operand as a condition.
* `QueryGate.ColumnFilter.ofJson` — a column with its value as a filter.
* `QueryGate.readFilters` — a whole object of filters.
-/

namespace QueryGate

/-- The kind of a value in words. -/
def kindOf : Json → String
  | .null => "null"
  | .bool _ => "a boolean"
  | .int _ | .float _ => "a number"
  | .str _ => "a string"
  | .arr _ => "a list"
  | .obj _ => "an object"

/-- A single value as a literal. An integer stays one as far as the engine's integers go. -/
def Literal.ofJson (column : Ident) : Json → Except Refusal Literal
  | .str s => .ok (.text s)
  | .bool b => .ok (.bool b)
  | .int n =>
    if Word.isSigned n then .ok (.integer n) else .ok (.float (Decimal.ofInt n))
  | .float x => .ok (.float x)
  | other => .error (.notScalar column.text (kindOf other))

/-- The items of a list as literals; there has to be one. -/
def readList (column : Ident) (items : List Json) : Except Refusal (List Literal) :=
  if items.isEmpty then .error (.emptyList column.text)
  else items.mapM (Literal.ofJson column)

/-- An operator with its operand as a condition. Operators are known in any letter case. -/
def Condition.ofOperator (column : Ident) (op : String) (operand : Json) :
    Except Refusal Condition :=
  match Text.lower op with
  | "eq" => (Literal.ofJson column operand).map .scalar
  | "in" =>
    match operand with
    | .arr items => (readList column items).map .inSet
    | other => .error (.notList column.text (kindOf other))
  | "between" =>
    match operand with
    | .arr [low, high] => do
      return .between (← Literal.ofJson column low) (← Literal.ofJson column high)
    | _ => .error (.notPair column.text)
  | "gte" => (Literal.ofJson column operand).map (.compare .atLeast)
  | "lte" => (Literal.ofJson column operand).map (.compare .atMost)
  | "gt" => (Literal.ofJson column operand).map (.compare .above)
  | "lt" => (Literal.ofJson column operand).map (.compare .below)
  | "contains" =>
    match operand with
    | .str s => do
      checkText s
      return .contains s
    | other => (Literal.ofJson column other).map fun value => .contains value.display
  | _ => .error (.unknownOperator op column.text)

/-- The operators of an object as conditions, in order. -/
def readOperators (column : Ident) (members : List (String × Json)) :
    Except Refusal (List Condition) :=
  members.mapM fun (op, operand) => do
    checkValue operand
    Condition.ofOperator column op operand

/-- The value of a column as conditions. -/
def readConditions (column : Ident) : Json → Except Refusal (List Condition)
  | .null => .ok [.isNull]
  | .arr items => (readList column items).map fun values => [.inSet values]
  | .obj members =>
    if members.isEmpty then .error (.noOperator column.text) else readOperators column members
  | value => (Literal.ofJson column value).map fun l => [.scalar l]

/-- A column with its value as a filter. -/
def ColumnFilter.ofJson (column : String) (value : Json) : Except Refusal ColumnFilter := do
  let column ← Ident.column column
  checkValue value
  return ⟨column, ← readConditions column value⟩

/-- A whole object of filters, in the order written. -/
def readFilters (members : List (String × Json)) : Except Refusal (List ColumnFilter) :=
  members.mapM fun (column, value) => ColumnFilter.ofJson column value

end QueryGate
