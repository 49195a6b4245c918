import QueryGate.Sql.Rule
import QueryGate.Sql.Language.Keyword

set_option relaxedAutoImplicit false
set_option autoImplicit false

/-!
# Parts of the query language

The parts of statement text that stand inside each other, and the small rules that all of them
share.

## Main definitions

* `QueryGate.Sql.Part` — the parts of the language.
* `QueryGate.Sql.Language.label` — a name given to something, with or without `AS`.
* `QueryGate.Sql.Language.value` — a constant given as such.
-/

namespace QueryGate.Sql

/-- The parts of the language. -/
inductive Part
  /-- A statement. -/
  | statement
  /-- Statements between `BEGIN` and `END`. -/
  | block
  /-- A query with its helpers, order and limits. -/
  | query
  /-- Queries joined by set operations. -/
  | body
  /-- An expression. -/
  | expression
  /-- An expression whose outer operators all bind tighter than a level. -/
  | operand (level : Nat)
  /-- What may follow an operand: operators that bind tighter than a level, with what they need. -/
  | operators (level : Nat)
  /-- What may follow the operand of a span of time: operators other than the logical ones. -/
  | spanOperators
  /-- The further names of a dotted name. -/
  | dotted
  /-- The further names of a dotted name that ends in a star. -/
  | starred
  /-- The branches of a case, after the first `WHEN`. -/
  | branches
  /-- A type inside a number of open angle brackets, with what closes them. -/
  | type (opened : Nat)
  /-- What may follow a type inside a number of open angle brackets. -/
  | closing (opened : Nat)
  /-- What may stand between parentheses behind the name of a type, and the closing one. -/
  | modifiers
  /-- A table, or what stands for one. -/
  | source
  /-- What stands between the parentheses around joined tables. -/
  | joinedSources
  /-- The tables joined to one before them. `must` says that there has to be one. -/
  | joins (must : Bool)
  /-- The turns of rows into columns, and of columns into rows, behind a table. -/
  | pivots
  /-- The lateral views of a query. -/
  | views
  /-- The locks that a query asks for. -/
  | locks
  /-- Anything before an equals sign. -/
  | untilEquals
  /-- Anything up to the mark of its end. -/
  | untilMark
  /-- The cases of a merge, up to the end of the statement. -/
  | merges
  /-- The columns and constraints of a new table, and the closing parenthesis. -/
  | columns
  /-- What is said about a column. `must` says that there has to be something. -/
  | columnOptions (must : Bool)
  /-- What happens to rows that refer to a row. -/
  | references
  /-- The attributes of a new type, and the closing parenthesis. -/
  | attributes
  /-- The parameters of a new procedure, and the closing parenthesis. -/
  | parameters
  /-- How the rows of a table are stored. -/
  | formats
  /-- Where a database is stored. -/
  | locations
  /-- What to learn about a table. -/
  | analyses
  /-- How a table is copied. -/
  | copyOptions
  /-- How a table is copied with commas. -/
  | commaOptions
  /-- The modes of a transaction. `must` says that there has to be one. -/
  | modes (must : Bool)
  deriving DecidableEq, Repr

/-- Whether a part counts for the limit on nesting. -/
def Part.nests : Part → Bool
  | statement | query | expression => true
  | _ => false

namespace Language

open Rule

/-- How deep statements, queries and expressions may nest, each inside another. -/
def maxNesting : Nat := 50

/-- An expression. -/
def expression : Rule Part := part .expression

/-- Expressions with commas between. -/
def expressions : Rule Part := list expression

/-- A query. -/
def query : Rule Part := part .query

/-- A bare word or a quoted name. -/
def ident : Rule Part := one .ident

/-- A name with any number of parts. -/
def dottedName : Rule Part := name ++ part .dotted

/-- Names between parentheses. -/
def names : Rule Part := parens (list name)

/-- Names between parentheses, or nothing. -/
def maybeNames : Rule Part := maybe [.sign "("] (list name ++ sign ")")

/-- The condition on rows, or nothing. -/
def maybeWhere : Rule Part := maybe [.word "WHERE"] expression

/-- A collation, or nothing. -/
def maybeCollate : Rule Part := maybe [.word "COLLATE"] dottedName

/-! ## Constants -/

/-- A constant given as such. -/
def value : Rule Part := on [.anySign [":", "@"]] (one .slot) (one .constant)

/-- A number, or the place of a literal. -/
def count : Rule Part :=
  on [.anySign [":", "@"]] (one .slot) (on [.number] done (one .place))

/-- A text, or a name that can stand for one. -/
def string : Rule Part := one (.nameBut keywords)

/-! ## Names given to things -/

/-- A name given to something, and what goes with it, or nothing. After `AS` any word is a
name. -/
def label (reserved : List String) (more : Rule Part) : Rule Part :=
  on [.word "AS"] (name ++ more) (maybe [.nameBut reserved] more)

/-- The name given to a table, perhaps with names for its columns. -/
def sourceLabel : Rule Part := label sourceEnds maybeNames

end Language

end QueryGate.Sql
