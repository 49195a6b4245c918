import QueryGate.Sql.Condition
import QueryGate.Sql.Script

set_option relaxedAutoImplicit false
set_option autoImplicit false

/-!
# Statements

A statement is text with one place per literal, and exactly one query as far as a reader of the
query language can tell. The program has the reader that follows the grammar, and reads texts put
together here and foreign ones by it.

## Main definitions

* `QueryGate.Statement` — text with its literals.
* `QueryGate.Sql.Reader` — what reads a text before it becomes a statement.
* `QueryGate.Sql.grammatical` — the reader that follows the grammar.
* `QueryGate.Statement.verified` — text and literals as a statement, if they make one.
* `QueryGate.Statement.ofText` — a statement given as text.
-/

namespace QueryGate

/-- Statement text with the literals for its places. -/
structure Statement where
  /-- The text. -/
  sql : Sql
  /-- The literals, in the order of their places. -/
  params : List Literal

/-- A reader of the query language: for every statement in a text whether it is a query, or why
the text is no list of statements. -/
abbrev Sql.Reader := String → Except String (List Bool)

/-- The reader that follows the grammar. It gives one reason for every text that it cannot read. -/
def Sql.grammatical : Sql.Reader := fun text =>
  match Sql.script? text with
  | some statements => .ok statements
  | none => .error "the text is no statement"

/-- Why text and literals do not make a statement. -/
inductive StatementFault
  /-- The places and the literals differ in number. -/
  | unevenSlots (slots params : Nat)
  /-- The text is no statement. -/
  | unreadable (reason : String)
  /-- The text is not exactly one query. -/
  | notOneQuery (statements : Nat)
  deriving DecidableEq, Repr

/-- A fault as the caller is told. -/
def StatementFault.failure : StatementFault → Failure
  | unevenSlots slots params =>
    .execution ("Statement has " ++ toString slots ++ " placeholders but " ++ toString params ++
      " parameters")
  | unreadable reason => .execution ("Generated SQL failed to parse: " ++ reason)
  | notOneQuery statements =>
    .execution ("Generated SQL must be exactly one SELECT, got " ++ toString statements ++
      " statement(s)")

namespace Statement

/-- The text of a statement. -/
def text (s : Statement) : String := s.sql.render

/-- The number of places in a text. Every question mark counts. -/
def countSlots (text : String) : Nat := text.toList.count '?'

/-- Text and literals as a statement: as many places as literals, and exactly one query as the
reader sees it. -/
def verified (reader : Sql.Reader) (sql : Sql) (params : List Literal) :
    Except StatementFault Statement :=
  let found := countSlots sql.render
  if found ≠ params.length then .error (.unevenSlots found params.length)
  else
    match reader sql.render with
    | .error reason => .error (.unreadable reason)
    | .ok [true] => .ok ⟨sql, params⟩
    | .ok all => .error (.notOneQuery all.length)

/-- A statement given as text, which the grammar has to read as exactly one query. -/
def ofText (text : String) (params : List Literal) : Except StatementFault Statement :=
  verified Sql.grammatical (Sql.word text) params

end Statement

end QueryGate
