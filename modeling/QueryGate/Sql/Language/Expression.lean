import QueryGate.Sql.Language.Type

set_option relaxedAutoImplicit false
set_option autoImplicit false

/-!
# Expressions of the query language

An expression is an operand with operators after it. An operator binds at a level, and takes as its
right side an operand whose operators bind tighter.

## Main definitions

* `QueryGate.Sql.Language.item` — an item that a query shows.
* `QueryGate.Sql.Language.call` — a call of a function.
* `QueryGate.Sql.Language.operand` — what stands before and after an operator.
* `QueryGate.Sql.Language.operators` — the operators tighter than a level.
-/

namespace QueryGate.Sql

namespace Language

open Rule

/-! ## Items and arguments -/

/-- A sort key. -/
def sortKey : Rule Part :=
  expression ++ maybe [.anyWord ["ASC", "DESC"]] done ++
    on [.word "NULLS", .word "FIRST"] done (maybe [.word "NULLS", .word "LAST"] done)

/-- The sort order, or nothing. -/
def maybeOrder : Rule Part := maybe [.word "ORDER", .word "BY"] (list sortKey)

/-- A bound on the number of rows, after `LIMIT`. -/
def limit : Rule Part := on [.word "ALL"] done expression

/-- A choice between all rows and the different ones, or nothing. -/
def maybeDistinct : Rule Part :=
  on [.word "ALL"] (look [.word "DISTINCT"] never done) <|
    maybe [.word "DISTINCT"] <|
      maybe [.word "ON"] (parens (look [.sign ")"] done expressions))

/-- A condition on the rows that an item looks at, or nothing. -/
def maybeFilter : Rule Part :=
  maybe [.word "FILTER", .sign "(", .word "WHERE"] (expression ++ sign ")")

/-- All columns, all columns of a table with `more` after the star, or an expression with `other`
after it. -/
def starOr (more other : Rule Part) : Rule Part :=
  on [.sign "*"] more (attempt (name ++ part .starred) more (expression ++ other))

/-- The columns left out of a star, or nothing. -/
def maybeExclude : Rule Part :=
  maybe [.word "EXCLUDE"] (on [.sign "("] (list name ++ sign ")") name)

/-- An item that a query shows. -/
def item : Rule Part := starOr maybeExclude (maybeFilter ++ label itemEnds done)

/-- An argument of a call, perhaps under its name. -/
def argument : Rule Part := maybe [.name, .sign "=>"] done ++ starOr done done

/-- The arguments of a call with nothing between them and the closing parenthesis, after the
opening one. -/
def arguments : Rule Part := on [.sign ")"] done (list argument ++ sign ")")

/-- The arguments of a call and their order, after the opening parenthesis. -/
def orderedArguments : Rule Part := on [.sign ")"] done (list argument ++ maybeOrder ++ sign ")")

/-! ## Spans of time -/

/-- A span of time, after its word. -/
def span : Rule Part :=
  part (.operand 100) ++ part .spanOperators ++
    on [.word "SECOND"] maybeSizes
      (maybe [.anyWord spanParts] done ++ maybeSize ++
        maybe [.word "TO"] (on [.word "SECOND"] maybeSize (anyKeyword timeParts)))

/-! ## Windows and calls -/

/-- One end of a window frame. -/
def frameEnd : Rule Part :=
  on [.word "CURRENT", .word "ROW"] done <|
    on [.word "UNBOUNDED"] done (look [.text] span expression) ++
      anyKeyword ["PRECEDING", "FOLLOWING"]

/-- The frame of a window. -/
def frame : Rule Part :=
  anyKeyword ["ROWS", "RANGE", "GROUPS"] ++
    on [.word "BETWEEN"] (frameEnd ++ keyword "AND" ++ frameEnd) frameEnd

/-- A window, after the opening parenthesis. -/
def window : Rule Part :=
  maybe [.word "PARTITION", .word "BY"] expressions ++ maybeOrder ++
    on [.sign ")"] done (frame ++ sign ")")

/-- A call, after the opening parenthesis. -/
def call : Rule Part :=
  maybeDistinct ++ orderedArguments ++
    maybe [.word "FILTER"]
      (maybe [.sign "("] (maybe [.word "WHERE"] (expression ++ sign ")"))) ++
    maybe [.anyWord ["RESPECT", "IGNORE"]] (keyword "NULLS") ++
    maybe [.word "OVER"] (on [.sign "("] window name)

/-- The collection of values into an array, after its word. -/
def collection : Rule Part :=
  parens (maybe [.word "DISTINCT"] done ++ expression ++ maybeOrder ++
    maybe [.word "LIMIT"] limit)

/-- What to do about a text that grows too long, after `ON OVERFLOW`. -/
def overflow : Rule Part :=
  on [.word "ERROR"] done <|
    keyword "TRUNCATE" ++
      on [.anyWord ["WITH", "WITHOUT"]] done
        (look [.text] expression (look [.written [.escaped, .national, .hexadecimal]] expression
          never) ++ anyKeyword ["WITH", "WITHOUT"]) ++
      keyword "COUNT"

/-- The joining of texts into one, after its word. -/
def joining : Rule Part :=
  parens (maybeDistinct ++ expression ++ maybe [.sign ","] expression ++
    maybe [.word "ON", .word "OVERFLOW"] overflow) ++
  maybe [.word "WITHIN", .word "GROUP"]
    (parens (keyword "ORDER" ++ keyword "BY" ++ list sortKey))

/-- The change of a value into another type, after its word. -/
def conversion : Rule Part :=
  parens (expression ++ keyword "AS" ++ type ++
    maybe [.word "FORMAT"]
      (value ++ maybe [.word "AT", .word "TIME", .word "ZONE"] value))

/-! ## Operands -/

/-- What comes after a word that opens an operand in a way of its own. -/
def wordOperands : List (List Kind × Rule Part) := [
  ([.anyWord ["TRUE", "FALSE", "NULL"]], done),
  ([.anyWord ["CURRENT_TIMESTAMP", "CURRENT_TIME", "CURRENT_DATE", "LOCALTIME", "LOCALTIMESTAMP"]],
    maybe [.sign "("] orderedArguments),
  ([.word "CASE"], on [.word "WHEN"] done (expression ++ keyword "WHEN") ++ part .branches),
  ([.anyWord ["CAST", "TRY_CAST", "SAFE_CAST"]], conversion),
  ([.word "EXISTS"], parens query),
  ([.word "EXTRACT"], parens (anyKeyword timeParts ++ keyword "FROM" ++ expression)),
  ([.anyWord ["CEIL", "FLOOR"]],
    parens (expression ++ maybe [.word "TO"] (anyKeyword timeParts))),
  ([.word "POSITION", .sign "("], part (.operand 20) ++ keyword "IN" ++ expression ++ sign ")"),
  ([.word "SUBSTRING"],
    parens (expression ++ on [.sign ","] expression (maybe [.word "FROM"] expression) ++
      on [.sign ","] expression (maybe [.word "FOR"] expression))),
  ([.word "OVERLAY"],
    parens (expression ++ keyword "PLACING" ++ expression ++ keyword "FROM" ++ expression ++
      maybe [.word "FOR"] expression)),
  ([.word "TRIM"],
    parens (maybe [.anyWord ["BOTH", "LEADING", "TRAILING"]] done ++ expression ++
      on [.word "FROM"] expression (maybe [.sign ","] done))),
  ([.word "LISTAGG"], joining),
  ([.word "ARRAY_AGG"], collection),
  ([.word "ARRAY", .sign "["], on [.sign "]"] done (expressions ++ sign "]")),
  ([.word "ARRAY", .sign "("], query ++ sign ")"),
  ([.word "NOT", .word "EXISTS"], parens query),
  ([.word "NOT"], part (.operand 15))]

/-- What comes after a name or a sign that opens an operand. -/
def otherOperands : List (List Kind × Rule Part) := [
  ([.charset, .text], done),
  ([.charset, .written [.hexadecimal]], done),
  ([.ident], part .dotted ++ maybe [.sign "("] call),
  ([.literal], done),
  ([.anySign ["-", "+"]], part (.operand 40)),
  ([.anySign [":", "@"]], one .slot),
  ([.sign "["], on [.sign "]"] done (expressions ++ sign "]")),
  ([.sign "("],
    look [.anyWord ["SELECT", "WITH"]] query expressions ++ sign ")" ++
      maybe [.sign "."] ident)]

/-- An operand without the operators after it. -/
def operand : Rule Part :=
  attempt typedText done <|
    on [.word "INTERVAL"] span <|
      first (wordOperands ++ otherOperands) never ++ maybeCollate

/-! ## Operators -/

/-- The right side of a comparison that binds at a level, perhaps with any or all of some values. -/
def comparedTo (level : Nat) : Rule Part :=
  on [.anyWord ["ANY", "ALL"]] (parens (part (.operand level))) (part (.operand level))

/-- The right side of another operator that binds at a level. -/
def rightSide (level : Nat) : Rule Part :=
  look [.anyWord ["ANY", "ALL"]] never (part (.operand level))

/-- What may come after `IS`. -/
def isWhat : Rule Part :=
  maybe [.word "NOT"] done ++
    on [.word "DISTINCT", .word "FROM"] expression (anyKeyword ["NULL", "TRUE", "FALSE", "UNKNOWN"])

/-- What may come after `IN`. -/
def inWhat : Rule Part :=
  on [.word "UNNEST"] (parens expression)
    (parens (look [.anyWord ["SELECT", "WITH"]] query expressions))

/-- What may come after `BETWEEN`. -/
def betweenWhat : Rule Part := part (.operand 20) ++ keyword "AND" ++ part (.operand 20)

/-- What may come after `LIKE`. -/
def likeWhat : Rule Part := part (.operand 19) ++ maybe [.word "ESCAPE"] (one .letter)

/-- What may stand between square brackets behind an operand, and the closing one. -/
def subscript : Rule Part :=
  on [.text] done (on [.number] done (one (.nameBut keywords) ++ maybe [.sign "("] call)) ++
    maybe [.sign "]"] done

/-- An operator: its level, the tokens that open it, and what comes after them. -/
abbrev Operator := Nat × List Kind × Rule Part

/-- The operators that join truth values. -/
def logicalOperators : List Operator := [
  (5, [.word "OR"], rightSide 5), (10, [.word "AND"], rightSide 10),
  (24, [.word "XOR"], rightSide 24)]

/-- The operators between two operands. -/
def binaryOperators : List Operator :=
  let ways : List (Nat × Kind) := [
    (20, .anySign ["~", "~*", "!~", "!~*", "<=>"]), (21, .sign "|"),
    (22, .anySign ["^", "<<", ">>"]), (23, .sign "&"), (30, .anySign ["+", "-"]),
    (40, .anySign ["*", "/", "//", "%", "||"])]
  (20, [.anySign ["=", "<", "<=", "<>", "!=", ">", ">=", "=="]], comparedTo 20) ::
    ways.map fun (level, opening) => (level, [opening], rightSide level)

/-- The operators that are words with a rule of their own. -/
def wordOperators : List Operator := [
  (17, [.word "IS"], isWhat),
  (20, [.word "AT", .word "TIME", .word "ZONE"], one .text),
  (20, [.word "IN"], inWhat), (20, [.word "NOT", .word "IN"], inWhat),
  (20, [.word "BETWEEN"], betweenWhat), (20, [.word "NOT", .word "BETWEEN"], betweenWhat),
  (19, [.anyWord ["LIKE", "ILIKE"]], likeWhat),
  (19, [.word "NOT", .anyWord ["LIKE", "ILIKE"]], likeWhat),
  (19, [.word "SIMILAR"], keyword "TO" ++ likeWhat),
  (19, [.word "NOT", .word "SIMILAR"], keyword "TO" ++ likeWhat),
  (19, [.word "REGEXP"], maybe [.word "RLIKE"] done ++ part (.operand 19)),
  (19, [.word "NOT", .word "REGEXP"], maybe [.word "RLIKE"] done ++ part (.operand 19)),
  (19, [.word "RLIKE"], part (.operand 19)),
  (19, [.word "NOT", .word "RLIKE"], part (.operand 19)),
  (20, [.word "OPERATOR"], never), (40, [.word "DIV"], never)]

/-- The operators that are signs with a rule of their own. -/
def signOperators : List Operator := [
  (22, [.sign "#"], never), (50, [.sign "::"], type), (50, [.sign ":"], value),
  (50, [.sign "!"], done), (50, [.sign "["], subscript),
  (50, [.anySign ["->", "->>", "#>", "#>>", "@>", "<@", "#-", "@?", "@@"]], expression)]

/-- The operators other than the logical ones. -/
def plainOperators : List Operator := binaryOperators ++ wordOperators ++ signOperators

/-- One of some operators with what comes after it and then `more`, or nothing. -/
def maybeOperator (choice : List Operator) (more : Rule Part) : Rule Part :=
  first (choice.map fun (_, opening, what) => (opening, what ++ more)) done

/-- The operators tighter than a level, each with what comes after it. -/
def operators (level : Nat) : Rule Part :=
  maybeOperator ((logicalOperators ++ plainOperators).filter fun (own, _, _) => level < own)
    (part (.operators level))

/-- The branches of a case, after the first `WHEN`. -/
def branches : Rule Part :=
  expression ++ keyword "THEN" ++ expression ++
    on [.word "WHEN"] (part .branches) (maybe [.word "ELSE"] expression ++ keyword "END")

end Language

end QueryGate.Sql
