import QueryGate.Sql.Language.Query

set_option relaxedAutoImplicit false
set_option autoImplicit false

/-!
# Commands that change rows

The commands that put rows into a table, change them there, take them out, or copy them to or from
a file.

## Main definitions

* `QueryGate.Sql.Language.insert`, `QueryGate.Sql.Language.update`,
  `QueryGate.Sql.Language.delete`, `QueryGate.Sql.Language.merge`
* `QueryGate.Sql.Language.copy` — rows copied to or from a file.
-/

namespace QueryGate.Sql

namespace Language

open Rule

/-! ## New rows -/

/-- What a command gives back, or nothing. -/
def maybeReturning : Rule Part := maybe [.word "RETURNING"] (list item)

/-- A value for a column. -/
def assignment : Rule Part := part .untilEquals ++ sign "=" ++ expression

/-- Rows of one part of a table, or nothing. -/
def maybePartition : Rule Part := maybe [.word "PARTITION"] (parens expressions)

/-- What to do about rows that are there already, or nothing. -/
def maybeConflict : Rule Part :=
  maybe [.word "ON"] <|
    on [.word "CONFLICT"]
      (on [.word "ON", .word "CONSTRAINT"] dottedName maybeNames ++ keyword "DO" ++
        on [.word "NOTHING"] done
          (keyword "UPDATE" ++ keyword "SET" ++ list assignment ++ maybeWhere))
      (keyword "DUPLICATE" ++ keyword "KEY" ++ keyword "UPDATE" ++ list assignment)

/-- The format of a file. -/
def fileFormat : Rule Part :=
  anyKeyword ["AVRO", "JSONFILE", "ORC", "PARQUET", "RCFILE", "SEQUENCEFILE", "TEXTFILE"]

/-- New rows, after `INSERT`. -/
def insert : Rule Part :=
  maybe [.anyWord ["INTO", "OVERWRITE"]] done ++ maybe [.word "LOCAL"] done ++
    on [.word "DIRECTORY"] (string ++ maybe [.word "STORED", .word "AS"] fileFormat ++ query)
      (maybe [.word "TABLE"] done ++ dottedName ++ maybeNames ++ maybePartition ++ maybeNames ++
        query ++ maybeConflict ++ maybeReturning)

/-! ## Changed and removed rows -/

/-- New values, after `UPDATE`. -/
def update : Rule Part :=
  joined ++ keyword "SET" ++ list assignment ++ maybe [.word "FROM"] joined ++ maybeWhere ++
    maybeReturning

/-- Rows to remove, after `DELETE`. -/
def delete : Rule Part :=
  on [.word "FROM"] done (list dottedName ++ keyword "FROM") ++ sources ++
    maybe [.word "USING"] sources ++ maybeWhere ++ maybeReturning ++ maybeOrder ++
    maybe [.word "LIMIT"] limit

/-- The cases of a merge, up to the end of the statement. Rows that match are changed or removed,
and rows that do not are put in. -/
def merges : Rule Part :=
  let condition := maybe [.word "AND"] expression ++ keyword "THEN"
  on [.word "WHEN", .word "MATCHED"]
    (condition ++
      on [.word "DELETE"] done (keyword "UPDATE" ++ keyword "SET" ++ list assignment) ++
      part .merges) <|
  on [.word "WHEN", .word "NOT", .word "MATCHED"]
    (condition ++ keyword "INSERT" ++ maybeNames ++ keyword "VALUES" ++ rows ++ part .merges)
    (look [.sign ";"] done (look [.any] never done))

/-- Rows brought together with others, after `MERGE`. -/
def merge : Rule Part :=
  maybe [.word "INTO"] done ++ part .source ++ keyword "USING" ++ part .source ++ keyword "ON" ++
    expression ++ part .merges

/-! ## Copied rows -/

/-- How a table is copied, as one of the options between parentheses. -/
def copyOption : Rule Part :=
  first [
    ([.word "FORMAT"], name),
    ([.anyWord ["FREEZE", "HEADER"]], maybe [.anyWord ["TRUE", "FALSE"]] done),
    ([.anyWord ["DELIMITER", "QUOTE", "ESCAPE"]], one .letter),
    ([.anyWord ["NULL", "ENCODING"]], string),
    ([.anyWord ["FORCE_QUOTE", "FORCE_NOT_NULL", "FORCE_NULL"]], names)] never

/-- How a table is copied with commas, without parentheses. -/
def commaOptions : Rule Part :=
  let more := part .commaOptions
  first [
    ([.word "HEADER"], more),
    ([.anyWord ["QUOTE", "ESCAPE"]], maybe [.word "AS"] done ++ one .letter ++ more),
    ([.word "FORCE", .word "NOT", .word "NULL"], list name ++ more),
    ([.word "FORCE", .word "QUOTE"], list name ++ more)] done

/-- How a table is copied, without parentheses. -/
def copyOptions : Rule Part :=
  let more := part .copyOptions
  first [
    ([.word "BINARY"], more),
    ([.word "DELIMITER"], maybe [.word "AS"] done ++ one .letter ++ more),
    ([.word "NULL"], maybe [.word "AS"] done ++ string ++ more),
    ([.word "CSV"], part .commaOptions ++ more)] done

/-- Rows copied to or from a file, after `COPY`. Rows that follow the statement end at a mark. -/
def copy : Rule Part :=
  let options := maybe [.word "WITH"] done ++
    maybe [.sign "("] (list copyOption ++ sign ")") ++ part .copyOptions
  on [.sign "("] (query ++ sign ")" ++ keyword "TO")
      (dottedName ++ maybeNames ++ anyKeyword ["FROM", "TO"]) ++
    on [.word "STDIN"] (options ++ sign ";" ++ part .untilMark)
      (on [.word "STDOUT"] done (maybe [.word "PROGRAM"] done ++ string) ++ options)

end Language

end QueryGate.Sql
