import QueryGate.Sql.Language.Session

set_option relaxedAutoImplicit false
set_option autoImplicit false

/-!
# The grammar of the query language

Statements, and the rule of each part of the language.

## Main definitions

* `QueryGate.Sql.Language.grammar` — the grammar of the language.
-/

namespace QueryGate.Sql

namespace Language

open Rule

/-- The commands that change rows or define things, each with what follows its word. -/
def commands : List (List Kind × Rule Part) := [
  ([.word "INSERT"], insert), ([.word "UPDATE"], update), ([.word "DELETE"], delete),
  ([.word "MERGE"], merge), ([.word "COPY"], copy),
  ([.word "CREATE"], create), ([.word "ALTER"], alter), ([.word "DROP"], drop)]

/-- A statement. -/
def statement : Rule Part :=
  first (commands ++ sessionCommands)
    (look [.anyWord ["SELECT", "WITH", "VALUES"]] query (look [.sign "("] query never))

/-- Statements with semicolons between them, and the word that ends them. -/
def block : Rule Part :=
  on [.sign ";"] (part .block) <|
    part .statement ++ on [.word "END"] done (sign ";" ++ part .block)

/-- The rule of each part of the language. -/
def rule : Part → Rule Part
  | .statement => statement
  | .block => block
  | .query => wholeQuery [([.word "INSERT"], insert), ([.word "UPDATE"], update)]
  | .body => body
  | .expression => part (.operand 0)
  | .operand level => operand ++ part (.operators level)
  | .operators level => operators level
  | .spanOperators => maybeOperator plainOperators (part .spanOperators)
  | .dotted => maybe [.sign "."] (name ++ part .dotted)
  | .starred => sign "." ++ on [.sign "*"] done (name ++ part .starred)
  | .branches => branches
  | .type opened => typeWithin opened
  | .closing opened => closing opened
  | .modifiers =>
    on [.name] (part .modifiers) <| on [.number] (part .modifiers) <|
      on [.sign ","] (part .modifiers) (sign ")")
  | .source => source
  | .joinedSources => joinedSources
  | .joins must => joins must
  | .pivots => pivots
  | .views => views
  | .locks => locks
  | .untilEquals => look [.sign "="] done (maybe [.any] (part .untilEquals))
  | .untilMark => on [.sign "\\", .sign "."] done (maybe [.any] (part .untilMark))
  | .merges => merges
  | .columns => columns
  | .columnOptions must => columnOptions must
  | .references => references
  | .attributes => attributes
  | .parameters => parameters
  | .formats => formats
  | .locations => locations
  | .analyses => analyses
  | .copyOptions => copyOptions
  | .commaOptions => commaOptions
  | .modes must => modes must

/-- The grammar of the language. -/
def grammar : Grammar Part where
  rule := rule
  nests := Part.nests

end Language

end QueryGate.Sql
