import QueryGate.Sql.Language.Definition

set_option relaxedAutoImplicit false
set_option autoImplicit false

/-!
# Commands of a session

The commands that look after a session: its variables, transactions, cursors and prepared
statements, the rights of users, and the upkeep of tables.

## Main definitions

* `QueryGate.Sql.Language.sessionCommands` — the commands, each with what follows its word.
-/

namespace QueryGate.Sql

namespace Language

open Rule

/-! ## Variables -/

/-- The modes of a transaction. `must` says that there has to be one. -/
def modes (must : Bool) : Rule Part :=
  let next := on [.sign ","] (part (.modes true)) (part (.modes false))
  first [
    ([.word "ISOLATION", .word "LEVEL"],
      first [
        ([.word "READ", .anyWord ["UNCOMMITTED", "COMMITTED"]], done),
        ([.word "REPEATABLE", .word "READ"], done),
        ([.word "SERIALIZABLE"], done)] never ++ next),
    ([.word "READ", .anyWord ["ONLY", "WRITE"]], next)]
    (if must then never else done)

/-- The values of a variable after an equals sign or `TO`, or something else. -/
def assignedOr (other : Rule Part) : Rule Part :=
  on [.sign "="] expressions (on [.word "TO"] expressions other)

/-- A variable, where `other` may follow it in place of its values if it has one name only. -/
def variableOr (other : Rule Part) : Rule Part :=
  look [.sign "."] (part .dotted ++ assignedOr never) (assignedOr other)

/-- A variable with its values. -/
def setVariable : Rule Part :=
  first [
    ([.word "TIME", .word "ZONE"], assignedOr expression),
    ([.word "TIMEZONE"], variableOr expression),
    ([.capital "CHARACTERISTICS", .word "AS", .word "TRANSACTION"], part (.modes false))]
    (dottedName ++ assignedOr never)

/-- A role to take on, after `ROLE`. -/
def role : Rule Part := on [.word "NONE"] done name

/-- A variable of a session, after `SET`. -/
def setting : Rule Part :=
  first [
    ([.anyWord ["SESSION", "LOCAL"]], on [.word "ROLE"] role setVariable),
    ([.word "HIVEVAR"], sign ":" ++ setVariable),
    ([.word "ROLE"], role),
    ([.capital "TRANSACTION", .word "SNAPSHOT"], value),
    ([.capital "TRANSACTION"], variableOr (part (.modes false)))]
    setVariable

/-- A choice among the things to show, or nothing. -/
def maybeChoice : Rule Part := on [.anyWord ["LIKE", "ILIKE"]] string maybeWhere

/-- Columns, tables or functions to show, or something else. -/
def catalogOr (other : Rule Part) : Rule Part :=
  let within := anyKeyword ["FROM", "IN"]
  first [
    ([.anyWord ["COLUMNS", "FIELDS"]],
      within ++ dottedName ++ maybe [.anyWord ["FROM", "IN"]] name ++ maybeChoice),
    ([.word "TABLES"], maybe [.anyWord ["FROM", "IN"]] name ++ maybeChoice),
    ([.word "FUNCTIONS"], maybeChoice)] other

/-- Something to show, after `SHOW`. The name of a variable goes on up to an equals sign. -/
def shown : Rule Part :=
  on [.word "EXTENDED"] (maybe [.word "FULL"] done ++ catalogOr never) <|
    on [.word "FULL"] (catalogOr never) <|
      catalogOr <|
        first [
          ([.word "CREATE"],
            anyKeyword ["TABLE", "TRIGGER", "FUNCTION", "PROCEDURE", "EVENT", "VIEW"] ++
              dottedName),
          ([.word "COLLATION"], maybeChoice),
          ([.word "VARIABLES"], part .untilEquals)]
          (part .untilEquals)

/-- A variable of the engine, after `PRAGMA`. -/
def pragma : Rule Part :=
  let constant := on [.text] done (on [.doubleQuoted] done count)
  dottedName ++ on [.sign "("] (constant ++ sign ")") (maybe [.sign "="] constant)

/-! ## Rights -/

/-- A right. -/
def right : Rule Part :=
  on [.anyWord ["INSERT", "REFERENCES", "SELECT", "UPDATE"]] maybeNames
    (anyKeyword ["CONNECT", "CREATE", "DELETE", "EXECUTE", "TEMPORARY", "TRIGGER", "TRUNCATE",
      "USAGE"])

/-- Rights on some things. -/
def rights : Rule Part :=
  on [.word "ALL"] (maybe [.word "PRIVILEGES"] done) (list right) ++ keyword "ON" ++
    on [.word "ALL", .anyWord ["TABLES", "SEQUENCES"], .word "IN", .word "SCHEMA"] done
      (maybe [.anyWord ["SEQUENCE", "SCHEMA", "TABLE"]] done) ++
    list dottedName

/-- The user who gives or takes a right, or nothing. -/
def maybeGrantor : Rule Part := maybe [.word "GRANTED", .word "BY"] name

/-- Rights to give, after `GRANT`. -/
def grant : Rule Part :=
  rights ++ keyword "TO" ++ list name ++
    maybe [.word "WITH", .word "GRANT", .word "OPTION"] done ++ maybeGrantor

/-- Rights to take, after `REVOKE`. -/
def revoke : Rule Part :=
  rights ++ keyword "FROM" ++ list name ++ maybeGrantor ++
    on [.word "CASCADE"] (look [.word "RESTRICT"] never done) (maybe [.word "RESTRICT"] done)

/-! ## Cursors and prepared statements -/

/-- A cursor, after `DECLARE`. -/
def cursor : Rule Part :=
  name ++ maybe [.word "BINARY"] done ++ maybe [.anyWord ["INSENSITIVE", "ASENSITIVE"]] done ++
    on [.word "SCROLL"] done (maybe [.word "NO", .word "SCROLL"] done) ++ keyword "CURSOR" ++
    maybe [.anyWord ["WITH", "WITHOUT"]] (keyword "HOLD") ++ keyword "FOR" ++ query

/-- Rows to fetch from a cursor, after `FETCH`. -/
def cursorFetch : Rule Part :=
  first [
    ([.anyWord ["NEXT", "PRIOR", "FIRST", "LAST", "ALL"]], done),
    ([.anyWord ["ABSOLUTE", "RELATIVE"]], count),
    ([.anyWord ["FORWARD", "BACKWARD"]], on [.word "ALL"] done count)] count ++
    anyKeyword ["FROM", "IN"] ++ name ++ maybe [.word "INTO"] dottedName

/-- A statement to keep, after `PREPARE`. -/
def prepare : Rule Part :=
  name ++ maybe [.sign "("] (list type ++ sign ")") ++ keyword "AS" ++ part .statement

/-- A statement to look at rather than to carry out, after `EXPLAIN`, or a table. -/
def explain : Rule Part :=
  maybe [.word "ANALYZE"] done ++ maybe [.word "VERBOSE"] done ++
    maybe [.word "FORMAT"] (anyKeyword ["TEXT", "GRAPHVIZ", "JSON"]) ++
    attempt (part .statement) done dottedName

/-! ## Upkeep -/

/-- What to learn about a table. -/
def analyses : Rule Part :=
  first [
    ([.word "PARTITION"], parens expressions ++ part .analyses),
    ([.word "NOSCAN"], part .analyses),
    ([.word "FOR"], keyword "COLUMNS" ++ attempt (list name) (part .analyses) (part .analyses)),
    ([.word "CACHE"], keyword "METADATA" ++ part .analyses),
    ([.word "COMPUTE"], keyword "STATISTICS" ++ part .analyses)] done

/-- A table to keep in memory, after `CACHE`. -/
def cache : Rule Part :=
  let content := maybeOptions "OPTIONS" ++
    look [.any] (maybe [.word "AS"] done ++ look [.ident] query never) done
  on [.word "TABLE"] done (dottedName ++ keyword "TABLE") ++ dottedName ++ content

/-- A repair of a table, after `MSCK`. -/
def repair : Rule Part :=
  maybe [.word "REPAIR"] done ++ keyword "TABLE" ++ dottedName ++
    on [.word "PARTITIONS"] done
      (maybe [.anyWord ["ADD", "DROP", "SYNC"], .word "PARTITIONS"] done)

/-! ## All commands -/

/-- The end of a transaction, after its word. -/
def ending : Rule Part :=
  maybe [.anyWord ["TRANSACTION", "WORK"]] done ++
    maybe [.word "AND"] (maybe [.word "NO"] done ++ keyword "CHAIN")

/-- The commands of a session, each with what follows its word. -/
def sessionCommands : List (List Kind × Rule Part) := [
  ([.word "SET"], setting), ([.word "SHOW"], shown), ([.word "PRAGMA"], pragma),
  ([.word "USE"], name),
  ([.word "START"], keyword "TRANSACTION" ++ part (.modes false)),
  ([.word "BEGIN"], maybe [.anyWord ["TRANSACTION", "WORK"]] done ++ part (.modes false)),
  ([.anyWord ["COMMIT", "ROLLBACK"]], ending),
  ([.word "SAVEPOINT"], name),
  ([.word "GRANT"], grant), ([.word "REVOKE"], revoke),
  ([.word "DECLARE"], cursor), ([.word "FETCH"], cursorFetch),
  ([.word "CLOSE"], on [.word "ALL"] done name),
  ([.word "PREPARE"], prepare),
  ([.word "EXECUTE"], name ++ maybe [.sign "("] (expressions ++ sign ")")),
  ([.word "DEALLOCATE"], maybe [.word "PREPARE"] done ++ name),
  ([.anyWord ["EXPLAIN", "DESCRIBE"]], explain),
  ([.word "ANALYZE"], keyword "TABLE" ++ dottedName ++ part .analyses),
  ([.word "TRUNCATE"], maybe [.word "TABLE"] done ++ dottedName ++ maybePartition),
  ([.word "CACHE"], cache),
  ([.word "UNCACHE"], keyword "TABLE" ++ maybeOld ++ dottedName),
  ([.word "MSCK"], repair),
  ([.word "ATTACH"],
    maybe [.word "DATABASE"] done ++ expression ++ keyword "AS" ++ name),
  ([.word "DISCARD"], anyKeyword ["ALL", "PLANS", "SEQUENCES", "TEMP", "TEMPORARY"]),
  ([.word "KILL"], maybe [.anyWord ["CONNECTION", "QUERY"]] done ++ one .size),
  ([.word "ASSERT"], expression ++ maybe [.word "AS"] expression)]

end Language

end QueryGate.Sql
