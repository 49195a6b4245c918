import QueryGate.Sql.Language.Grammar

set_option relaxedAutoImplicit false
set_option autoImplicit false

/-!
# Statements of a text

A text holds statements with semicolons between them. Each is read by the grammar of the language,
and is a query or a command.

## Main definitions

* `QueryGate.Sql.isQuery` — whether a statement is a query.
* `QueryGate.Sql.script?` — for each statement of a text whether it is a query.
-/

namespace QueryGate.Sql

/-- Whether a statement is a query, which its first token shows. -/
def isQuery : Token → Bool
  | .word w _ => ["SELECT", "WITH", "VALUES"].contains w
  | t => t = .sign "("

/-- A bound on how many rules stand inside each other while a statement is read. Between two tokens
that are taken there are fewer than a thousand. -/
def maxRules (ts : List Token) : Nat := 1000 * (ts.length + 1)

/-- What follows the statement that tokens begin with. -/
def afterStatement? (ts : List Token) : Option (List Token) :=
  Language.grammar.rest? (maxRules ts) Language.maxNesting (.part .statement) ts

/-- For each statement whether it is a query. Empty statements do not count. A statement ends at a
semicolon, and a text also at the word `END` behind a statement. -/
def statements? : List Token → Option (List Bool)
  | [] => some []
  | t :: ts =>
    if t = .sign ";" then statements? ts
    else
      match afterStatement? (t :: ts) with
      | some [] | some (.word "END" _ :: _) => some [isQuery t]
      | some (.sign ";" :: rest) =>
        if rest.length < ts.length then (statements? rest).map (isQuery t :: ·) else none
      | _ => none
termination_by ts => ts.length

/-- For each statement of a text whether it is a query. Empty statements are left out. -/
def script? (text : String) : Option (List Bool) := do statements? (← tokens? text)

end QueryGate.Sql
