import QueryGate.Failure
import QueryGate.Text.Split
import QueryGate.Word

set_option relaxedAutoImplicit false
set_option autoImplicit false

/-!
# Refusals

The ways in which a request can be at fault, each with what it is about, and the wording of each.

## Main definitions

* `QueryGate.NameKind`, `QueryGate.NameFault` — what a name names and why it is no good.
* `QueryGate.Refusal` — why a request is refused.
* `QueryGate.Refusal.failure` — a refusal as the caller is told.
-/

namespace QueryGate

/-- What a name names. -/
inductive NameKind
  | column
  | table
  | fileId
  deriving DecidableEq, Repr

namespace NameKind

/-- The kind in words. -/
def label : NameKind → String
  | column => "column"
  | table => "table"
  | fileId => "file_id"

/-- The most bytes that a name of the kind may have. -/
def limit : NameKind → Nat
  | column | table => 100
  | fileId => 200

end NameKind

/-- Why a name is no good. -/
inductive NameFault
  /-- It is empty. -/
  | empty
  /-- It has more bytes than its kind allows. -/
  | tooLong
  /-- It holds a slash, a backslash or two dots in a row. -/
  | pathLike
  /-- It holds a character outside the alphabet of names. -/
  | badCharacter
  /-- It is a keyword of the query language. -/
  | reserved
  deriving DecidableEq, Repr

/-- The wording of a fault of `name`. -/
def NameFault.message (kind : NameKind) (name : String) : NameFault → String
  | empty => "Empty " ++ kind.label ++ " name"
  | tooLong =>
    kind.label ++ " name too long (" ++ toString name.utf8ByteSize ++ " chars, max " ++
      toString kind.limit ++ ")"
  | pathLike => "Path traversal sequence in " ++ kind.label ++ " name '" ++ name ++ "'"
  | badCharacter =>
    "Invalid " ++ kind.label ++ " name '" ++ name ++
      "': only letters, digits, '_', '.' and '-' are allowed"
  | reserved => "Reserved SQL keyword used as " ++ kind.label ++ " name: '" ++ name ++ "'"

/-- Why a request is refused. -/
inductive Refusal
  /-- A name is no good. -/
  | badName (kind : NameKind) (name : String) (fault : NameFault)
  /-- A dataset's name does not have three parts. -/
  | fileIdShape (fileId : String)
  /-- One ceiling on the size of a request is exceeded. -/
  | oneProblem (problem : String)
  /-- Several things are wrong with the size and the names of a request; the ceilings follow. -/
  | problems (problems : List String) (select groupBy filters : Nat)
  /-- A text has too many characters. -/
  | longText (length : Nat)
  /-- A text holds a character that might end a literal. -/
  | forbiddenCharacter (c : Char)
  /-- A list has too many items. -/
  | longList (length : Nat)
  /-- A single value is wanted and something else is given. -/
  | notScalar (column : String) (given : String)
  /-- An object of operators is empty. -/
  | noOperator (column : String)
  /-- A list of values is empty. -/
  | emptyList (column : String)
  /-- The operand of `in` is no list. -/
  | notList (column : String) (given : String)
  /-- The operand of `between` is no pair. -/
  | notPair (column : String)
  /-- An operator is not known. -/
  | unknownOperator (operator : String) (column : String)
  /-- A sort term has none of the forms allowed. -/
  | badOrder (term : String)
  /-- The offset is beyond what the engine counts. -/
  | offsetTooLarge (offset : Nat)
  /-- The function of an aggregation is not given as a text. -/
  | functionNotText (column : String)
  /-- An aggregation function is not known. -/
  | unknownFunction (name : String)
  /-- The two years to compare are the same. -/
  | sameYears
  /-- A condition on groups stands without an aggregation. -/
  | havingAlone
  /-- Columns are neither aggregated nor grouped. -/
  | ungrouped (columns : List String)
  /-- A condition on groups refers to something else; what it may refer to follows. -/
  | havingStranger (column : String) (allowed : List String)
  /-- The name of a place is blank. -/
  | blankName
  /-- A conversation has no messages. -/
  | noMessages
  /-- A tool's arguments are not JSON. Where they go wrong is not told. -/
  | toolNotJson (tool : String)
  /-- A tool's arguments do not have the shape wanted. -/
  | toolMisfit (tool : String) (reason : String)
  /-- A tool is not known. -/
  | unknownTool (tool : String)
  /-- The body of a request is not declared as JSON. -/
  | bodyUndeclared
  /-- The body of a request has too many bytes. -/
  | bodyTooLong
  /-- The body of a request is not JSON. Where it goes wrong is not told. -/
  | bodyNotJson
  /-- The body of a request does not have the shape wanted. -/
  | bodyMisfit (reason : String)

namespace Refusal

/-- The operators of filters. -/
def operators : List String := ["eq", "in", "between", "gte", "lte", "gt", "lt", "contains"]

/-- The names of aggregation functions. -/
def functions : List String :=
  ["sum", "avg", "mean", "count", "distinct", "min", "max", "std", "stddev", "variance"]

/-- The names of the tools. -/
def tools : List String :=
  ["query_dataset", "yoy_metric", "list_files", "get_schema", "resolve_entity"]

/-- What is wrong. -/
def detail : Refusal → String
  | badName kind name fault => fault.message kind name
  | fileIdShape id => "file_id '" ++ id ++ "' is not of the form sector-level-grain"
  | oneProblem problem => problem
  | .problems all _ _ _ =>
    toString all.length ++ " validation problems: " ++ Text.joined "; " all
  | longText n => "Filter value too long (" ++ toString n ++ " chars, max 500)"
  | forbiddenCharacter c => "Filter value contains forbidden character '" ++ c.toString ++ "'"
  | longList n => "Filter list too long (" ++ toString n ++ " items, max 100)"
  | notScalar column given => "Filter on '" ++ column ++ "' expects a scalar, got " ++ given
  | noOperator column => "Empty operator object for '" ++ column ++ "'"
  | emptyList column => "Empty 'in' list for '" ++ column ++ "'"
  | notList column given => "'in' on '" ++ column ++ "' expects a list, got " ++ given
  | notPair column => "'between' on '" ++ column ++ "' expects exactly two values [low, high]"
  | unknownOperator op column => "Unsupported operator '" ++ op ++ "' on '" ++ column ++ "'"
  | badOrder term => "Invalid order_by term '" ++ term ++ "'"
  | offsetTooLarge n => "offset " ++ toString n ++ " is out of range"
  | functionNotText column =>
    "Aggregation for '" ++ column ++ "' must be a function name string"
  | unknownFunction name => "Unknown aggregation function '" ++ name ++ "'"
  | sameYears => "base_year and compare_year must differ"
  | havingAlone => "having requires at least one aggregation"
  | ungrouped columns =>
    "Columns must be aggregated or listed in group_by: " ++ Text.joined ", " columns
  | havingStranger column _ =>
    "having references '" ++ column ++ "', which is neither grouped nor aggregated"
  | blankName => "name must not be empty"
  | noMessages => "messages must not be empty"
  | toolNotJson tool => "Tool '" ++ tool ++ "' arguments are not JSON: " ++ Json.unread
  | toolMisfit tool reason => "Invalid arguments for '" ++ tool ++ "': " ++ reason
  | unknownTool tool => "Unknown tool '" ++ tool ++ "'"
  | bodyUndeclared => "Expected request with `Content-Type: application/json`"
  | bodyTooLong => "Failed to buffer the request body: length limit exceeded"
  | bodyNotJson => "Failed to parse the request body as JSON: " ++ Json.unread
  | bodyMisfit reason =>
    "Failed to deserialize the JSON body into the target type: " ++ reason

/-- What the caller may do about it. -/
def hint : Refusal → Option String
  | fileIdShape _ => some "Example: power-country-year"
  | .problems _ select groupBy filters =>
    some ("Limits: " ++ toString select ++ " select columns, " ++ toString groupBy ++
      " group_by columns, " ++ toString filters ++ " filter keys")
  | forbiddenCharacter _ =>
    some "Remove quotes, semicolons and backslashes from filter values"
  | unknownOperator _ _ => some ("Allowed operators: " ++ Text.joined ", " operators)
  | badOrder _ => some "Use 'column', 'column ASC', 'column DESC' or '-column'"
  | offsetTooLarge _ => some ("offset must be at most " ++ toString Word.maxSigned)
  | unknownFunction _ => some ("Allowed functions: " ++ Text.joined ", " functions)
  | havingAlone => some "Use where for row-level filters"
  | ungrouped _ => some "Add them to group_by or give them an aggregation function"
  | havingStranger _ allowed => some ("having may use: " ++ Text.joined ", " allowed)
  | unknownTool _ => some ("Available tools: " ++ Text.joined ", " tools)
  | bodyUndeclared | bodyTooLong | bodyNotJson | bodyMisfit _ =>
    some "Send a JSON object matching the documented request shape"
  | _ => none

/-- All that is wrong, where several things are. -/
def violations : Refusal → List String
  | .problems all _ _ _ => all
  | _ => []

/-- A refusal as the caller is told. -/
def failure (r : Refusal) : Failure := .validation r.detail r.hint r.violations

end Refusal

end QueryGate
