import QueryGate.Sql.Language.Command

set_option relaxedAutoImplicit false
set_option autoImplicit false

/-!
# Commands that define things

The commands that create, change and drop tables and other things with a name.

## Main definitions

* `QueryGate.Sql.Language.create`, `QueryGate.Sql.Language.alter`, `QueryGate.Sql.Language.drop`
-/

namespace QueryGate.Sql

namespace Language

open Rule

/-- The words before the name of a new thing that may be there already, or nothing. -/
def maybeNew : Rule Part := maybe [.word "IF", .word "NOT", .word "EXISTS"] done

/-- The words before the name of a thing that may be missing, or nothing. -/
def maybeOld : Rule Part := maybe [.word "IF", .word "EXISTS"] done

/-- Options with their values after a word, or nothing. -/
def maybeOptions (word : String) : Rule Part :=
  maybe [.word word] (parens (list (name ++ sign "=" ++ value)))

/-! ## Columns -/

/-- What happens to rows that refer to a row. -/
def references : Rule Part :=
  maybe [.word "ON", .anyWord ["DELETE", "UPDATE"]]
    (on [.anyWord ["RESTRICT", "CASCADE"]] done
      (on [.word "SET"] (anyKeyword ["NULL", "DEFAULT"]) (keyword "NO" ++ keyword "ACTION")) ++
      part .references)

/-- How the numbers of a sequence go on. -/
def sequenceOptions : Rule Part :=
  let bound (word : String) := on [.word word] count (maybe [.word "NO", .word word] done)
  maybe [.word "INCREMENT"] (maybe [.word "BY"] done ++ count) ++ bound "MINVALUE" ++
    bound "MAXVALUE" ++ maybe [.word "START"] (maybe [.word "WITH"] done ++ count) ++
    maybe [.word "CACHE"] count ++ maybe [.word "NO"] done ++ maybe [.word "CYCLE"] done

/-- How the values of a column are made, after `GENERATED`, with `more` after it. -/
def generated (more : Rule Part) : Rule Part :=
  let identity := maybe [.sign "("] (sequenceOptions ++ sign ")") ++ more
  first [
    ([.word "ALWAYS", .word "AS", .word "IDENTITY"], identity),
    ([.word "BY", .word "DEFAULT", .word "AS", .word "IDENTITY"], identity),
    ([.word "ALWAYS", .word "AS", .sign "("], expression ++ sign ")" ++ more)]
    (maybe [.word "ALWAYS", .word "AS"] done)

/-- What is said about a column. `must` says that there has to be something. -/
def columnOptions (must : Bool) : Rule Part :=
  let more := part (.columnOptions false)
  first [
    ([.word "CONSTRAINT"], if must then never else name ++ part (.columnOptions true)),
    ([.word "CHARACTER", .word "SET"], dottedName ++ more),
    ([.word "NOT", .word "NULL"], more),
    ([.word "COMMENT"], one .text ++ more),
    ([.word "NULL"], more),
    ([.word "DEFAULT"], expression ++ more),
    ([.word "PRIMARY", .word "KEY"], more),
    ([.word "UNIQUE"], more),
    ([.word "REFERENCES"], dottedName ++ maybeNames ++ part .references ++ more),
    ([.word "CHECK"], parens expression ++ more),
    ([.word "GENERATED"], generated more)]
    (if must then never
      else maybe [.word "AUTO_INCREMENT"] done ++ maybe [.word "AUTOINCREMENT"] done ++
        maybe [.word "GENERATED"] (generated more))

/-- A column of a table. -/
def column : Rule Part := name ++ type ++ maybeCollate ++ part (.columnOptions false)

/-- The constraints on a table, each with what follows its word. -/
def constraints : List (List Kind × Rule Part) := [
  ([.anyWord ["PRIMARY", "UNIQUE"]],
    maybe [.word "KEY"] done ++ maybe [.name] done ++ names),
  ([.word "FOREIGN"],
    keyword "KEY" ++ names ++ keyword "REFERENCES" ++ dottedName ++ names ++ part .references),
  ([.word "CHECK"], parens expression)]

/-- A constraint on a table, or something else. -/
def constraintOr (other : Rule Part) : Rule Part :=
  on [.word "CONSTRAINT"] (name ++ first constraints never) (first constraints other)

/-- What may follow one of some things between parentheses: a comma and more of them, or the closing
parenthesis. A comma may stand before the parenthesis too. -/
def closedOr (more : Rule Part) : Rule Part :=
  on [.sign ",", .sign ")"] done (on [.sign ","] more (sign ")"))

/-- The columns and constraints of a new table, and the closing parenthesis. -/
def columns : Rule Part :=
  constraintOr (look [.ident] column never) ++ closedOr (part .columns)

/-- Things between parentheses, or none, or nothing. -/
def maybeAny (things : Rule Part) : Rule Part :=
  maybe [.sign "("] (on [.sign ")"] done things)

/-! ## New things -/

/-- How the rows of a table are stored. -/
def formats : Rule Part :=
  first [
    ([.word "ROW"],
      keyword "FORMAT" ++ on [.word "SERDE"] string (maybe [.word "DELIMITED"] done) ++
        part .formats),
    ([.word "STORED"],
      keyword "AS" ++
        on [.word "INPUTFORMAT"] (expression ++ keyword "OUTPUTFORMAT" ++ expression) fileFormat ++
        part .formats),
    ([.word "LOCATION"], string ++ part .formats)] done

/-- How the rows of a table are divided, and how they are stored. -/
def storage : Rule Part :=
  maybe [.word "PARTITIONED", .word "BY"] (parens (list column)) ++ part .formats

/-- What becomes of the rows of a table when a transaction ends, after `ON COMMIT`. -/
def commitAction : Rule Part :=
  on [.word "DROP"] done (anyKeyword ["DELETE", "PRESERVE"] ++ keyword "ROWS")

/-- A new table, after `TABLE`. -/
def newTable : Rule Part :=
  maybeNew ++ dottedName ++ maybe [.word "ON", .word "CLUSTER"] name ++
    maybe [.anyWord ["LIKE", "ILIKE"]] dottedName ++ maybe [.word "CLONE"] dottedName ++
    maybeAny (part .columns) ++ maybe [.word "WITHOUT", .word "ROWID"] done ++ storage ++
    maybeOptions "WITH" ++ maybeOptions "TBLPROPERTIES" ++
    maybe [.word "ENGINE"] (sign "=" ++ ident) ++
    maybe [.word "AUTO_INCREMENT"] (maybe [.sign "="] done ++ one .number) ++
    maybe [.word "COMMENT"] (maybe [.sign "="] done ++ one .text) ++
    maybe [.word "ORDER", .word "BY"]
      (on [.sign "("] (on [.sign ")"] done (list name ++ sign ")")) name) ++
    maybe [.word "AS"] query ++
    maybe [.word "DEFAULT", .word "CHARSET"] (sign "=" ++ ident) ++
    maybe [.word "COLLATE"] (sign "=" ++ ident) ++
    maybe [.word "ON", .word "COMMIT"] commitAction ++ maybe [.word "STRICT"] done

/-- What a view shows. -/
def viewBody : Rule Part :=
  dottedName ++ maybeNames ++ maybeOptions "WITH" ++
    maybe [.word "CLUSTER"] (keyword "BY" ++ maybeNames) ++ keyword "AS" ++ query

/-- A new function that stands for an expression or a query, after its word. -/
def newMacro : Rule Part :=
  let parameter := name ++ maybe [.anySign [":=", "=>"]] expression
  dottedName ++ parens (look [.sign ")"] done (list parameter)) ++ keyword "AS" ++
    on [.word "TABLE"] query expression

/-- The things that can take the place of one that is there already, each with what follows its
word. -/
def replaceable : List (List Kind × Rule Part) := [
  ([.word "TABLE"], newTable),
  ([.word "MATERIALIZED"], keyword "VIEW" ++ viewBody),
  ([.word "VIEW"], viewBody),
  ([.word "EXTERNAL"],
    keyword "TABLE" ++ maybeNew ++ dottedName ++ maybeAny (part .columns) ++ storage ++
      maybeOptions "TBLPROPERTIES"),
  ([.anyWord ["FUNCTION", "MACRO"]], newMacro)]

/-- A new index, after `INDEX`. -/
def newIndex : Rule Part :=
  maybe [.word "CONCURRENTLY"] done ++
    on [.word "IF", .word "NOT", .word "EXISTS"] (dottedName ++ keyword "ON")
      (on [.word "ON"] done (dottedName ++ keyword "ON")) ++
    dottedName ++ maybe [.word "USING"] name ++ parens (list sortKey) ++
    maybe [.word "INCLUDE"] names ++
    maybe [.word "NULLS"] (maybe [.word "NOT"] done ++ keyword "DISTINCT") ++ maybeWhere

/-- Where a database is stored. -/
def locations : Rule Part :=
  maybe [.anyWord ["LOCATION", "MANAGEDLOCATION"]] (string ++ part .locations)

/-- The attributes of a new type, and the closing parenthesis. -/
def attributes : Rule Part := name ++ type ++ maybeCollate ++ closedOr (part .attributes)

/-- The parameters of a new procedure, and the closing parenthesis. -/
def parameters : Rule Part := look [.ident] (ident ++ type) done ++ closedOr (part .parameters)

/-- The things that cannot take the place of another, each with what follows its word. -/
def unreplaceable : List (List Kind × Rule Part) := [
  ([.word "INDEX"], newIndex),
  ([.word "UNIQUE", .word "INDEX"], newIndex),
  ([.word "VIRTUAL"],
    keyword "TABLE" ++ maybeNew ++ dottedName ++ keyword "USING" ++ name ++ maybeNames),
  ([.word "SCHEMA"],
    maybeNew ++
      on [.word "AUTHORIZATION"] name (dottedName ++ maybe [.word "AUTHORIZATION"] name)),
  ([.word "DATABASE"], maybeNew ++ dottedName ++ part .locations),
  ([.word "ROLE"], maybeNew ++ list dottedName ++ maybe [.word "WITH"] done),
  ([.word "SEQUENCE"],
    maybeNew ++ dottedName ++ maybe [.word "AS"] type ++ sequenceOptions ++
      maybe [.word "OWNED"] (keyword "BY" ++ on [.word "NONE"] done dottedName)),
  ([.word "TYPE"], dottedName ++ keyword "AS" ++ maybeAny (part .attributes)),
  ([.word "PROCEDURE"],
    dottedName ++ maybeAny (part .parameters) ++ keyword "AS" ++ keyword "BEGIN" ++
      part .block)]

/-- A new thing, after `CREATE`. -/
def create : Rule Part :=
  let scope := maybe [.word "OR", .word "ALTER"] done ++ maybe [.word "LOCAL"] done ++
    maybe [.word "GLOBAL"] done ++ maybe [.word "TRANSIENT"] done ++
    maybe [.anyWord ["TEMP", "TEMPORARY"]] done
  on [.word "OR", .word "REPLACE"] (scope ++ first replaceable never)
    (scope ++ first (replaceable ++ unreplaceable) never)

/-! ## Changed things -/

/-- A change of a column, after its name. -/
def columnChange : Rule Part :=
  first [
    ([.anyWord ["SET", "DROP"], .word "NOT", .word "NULL"], done),
    ([.word "SET", .word "DEFAULT"], expression),
    ([.word "DROP", .word "DEFAULT"], done),
    ([.word "SET", .word "DATA", .word "TYPE"], type)] never

/-- A change of a table. -/
def tableChange : Rule Part :=
  let maybeColumn := maybe [.word "COLUMN"] done
  let hook := anyKeyword ["RULE", "TRIGGER"] ++ name
  let cascading := name ++ maybe [.word "CASCADE"] done
  let security (other : Rule Part) := on [.word "ROW", .word "LEVEL", .word "SECURITY"] done other
  first [
    ([.word "ADD"],
      constraintOr
        (maybeNew ++ on [.word "PARTITION"] (parens expressions)
          (maybeColumn ++ maybeNew ++ column))),
    ([.word "RENAME"],
      on [.word "TO"] dottedName (maybeColumn ++ name ++ keyword "TO" ++ name)),
    ([.word "DISABLE"], security hook),
    ([.word "ENABLE"], security (maybe [.anyWord ["ALWAYS", "REPLICA"]] done ++ hook)),
    ([.word "DROP"],
      first [
        ([.word "IF", .word "EXISTS", .word "PARTITION"], parens expressions),
        ([.word "PARTITION"], parens expressions),
        ([.word "CONSTRAINT"], maybeOld ++ cascading)]
        (maybeColumn ++ maybeOld ++ cascading)),
    ([.word "PARTITION"],
      parens expressions ++ keyword "RENAME" ++ keyword "TO" ++ keyword "PARTITION" ++
        parens expressions),
    ([.word "CHANGE"], maybeColumn ++ name ++ name ++ type ++ part (.columnOptions false)),
    ([.word "ALTER"], maybeColumn ++ name ++ columnChange),
    ([.word "SWAP"], keyword "WITH" ++ dottedName)] never

/-- A change of a thing, after `ALTER`. -/
def alter : Rule Part :=
  first [
    ([.word "VIEW"],
      dottedName ++ maybeNames ++ maybeOptions "WITH" ++ keyword "AS" ++ query),
    ([.word "TABLE"], maybe [.word "ONLY"] done ++ dottedName ++ list tableChange),
    ([.word "INDEX"], dottedName ++ keyword "RENAME" ++ keyword "TO" ++ dottedName)] never

/-! ## Dropped things -/

/-- An argument by which a function is known: a type, perhaps with a name before it. What could be
a type of another name is the name of the argument. -/
def signature : Rule Part :=
  maybe [.anyWord ["IN", "OUT", "INOUT"]] done ++
    typeOr 0 (customType ++ on [.sign "["] (sign "]" ++ part (.closing 0)) type) ++
    on [.word "DEFAULT"] expression (maybe [.sign "="] expression)

/-- Things to remove, after `DROP`. -/
def drop : Rule Part :=
  let named := maybeOld ++ list dottedName
  let restricted := look [.word "RESTRICT"] never done
  first [
    ([.anyWord ["TABLE", "VIEW", "INDEX", "SCHEMA", "SEQUENCE", "STAGE"]],
      named ++ on [.word "CASCADE"] restricted (maybe [.word "RESTRICT"] done) ++
        maybe [.word "PURGE"] done),
    ([.word "ROLE"], named),
    ([.word "FUNCTION"],
      maybeOld ++ list (dottedName ++ maybeAny (list signature ++ sign ")")) ++
        maybe [.anyWord ["CASCADE", "RESTRICT"]] done)] never

end Language

end QueryGate.Sql
