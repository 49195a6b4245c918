import QueryGate.Sql.Language.Part

set_option relaxedAutoImplicit false
set_option autoImplicit false

/-!
# Types of the query language

A type is one of the known ones, perhaps with sizes, an array of another type, or a name with
modifiers. Square brackets behind it make an array of it.

## Main definitions

* `QueryGate.Sql.Language.type` — a type.
* `QueryGate.Sql.Language.typedText` — a text behind its type.
-/

namespace QueryGate.Sql

namespace Language

open Rule

/-! ## Sizes -/

/-- A size between parentheses, or nothing. -/
def maybeSize : Rule Part := maybe [.sign "("] (one .size ++ sign ")")

/-- A size, and perhaps a second one, between parentheses, or nothing. -/
def maybeSizes : Rule Part :=
  maybe [.sign "("] (one .size ++ maybe [.sign ","] (one .size) ++ sign ")")

/-- A length between parentheses, or nothing. -/
def maybeLength : Rule Part :=
  maybe [.sign "("]
    (one .size ++ maybe [.anyWord ["CHARACTERS", "OCTETS"]] done ++ sign ")")

/-! ## Known types -/

/-- The types that take no size. -/
def plainTypes : List String := [
  "BOOLEAN", "REAL", "FLOAT4", "FLOAT64", "FLOAT8", "INT64", "UUID", "DATE", "INTERVAL", "JSON",
  "REGCLASS", "TEXT", "BYTEA"]

/-- The types that may have a size. -/
def sizedTypes : List String := [
  "FLOAT", "NVARCHAR", "CLOB", "BINARY", "VARBINARY", "BLOB", "BYTES", "DATETIME", "TIMESTAMPTZ",
  "TIMETZ", "STRING"]

/-- The whole numbers, which may have a size and no sign. -/
def integerTypes : List String := [
  "TINYINT", "INT2", "SMALLINT", "MEDIUMINT", "INT", "INT4", "INTEGER", "BIGINT", "INT8"]

/-- The decimal numbers, which may have a size and a scale. -/
def decimalTypes : List String := ["NUMERIC", "DECIMAL", "DEC", "BIGNUMERIC", "BIGDECIMAL"]

/-- The known types, each with what follows its word. -/
def knownTypes : List (List Kind × Rule Part) := [
  ([.anyWord plainTypes], done),
  ([.anyWord sizedTypes], maybeSize),
  ([.anyWord integerTypes], maybeSize ++ maybe [.word "UNSIGNED"] done),
  ([.anyWord decimalTypes], maybeSizes),
  ([.word "DOUBLE"], maybe [.word "PRECISION"] done),
  ([.word "VARCHAR"], maybeLength),
  ([.anyWord ["CHARACTER", "CHAR"]],
    on [.word "VARYING"] maybeLength (on [.word "LARGE", .word "OBJECT"] maybeSize maybeLength)),
  ([.anyWord ["TIME", "TIMESTAMP"]],
    maybeSize ++ maybe [.anyWord ["WITH", "WITHOUT"]] (keyword "TIME" ++ keyword "ZONE")),
  ([.anyWord ["ENUM", "SET"]], parens (list (one .text)))]

/-! ## Types -/

/-- A type of another name, with its modifiers. -/
def customType : Rule Part := ident ++ part .dotted ++ maybe [.sign "("] (part .modifiers)

/-- A known type or an array inside a number of open angle brackets, with what closes them, or
something else. -/
def typeOr (opened : Nat) (other : Rule Part) : Rule Part :=
  first (([.word "ARRAY"], sign "<" ++ part (.type (opened + 1))) ::
    knownTypes.map fun (ahead, body) => (ahead, body ++ part (.closing opened))) other

/-- A type inside a number of open angle brackets, with what closes them. -/
def typeWithin (opened : Nat) : Rule Part :=
  typeOr opened (customType ++ part (.closing opened))

/-- What may follow a type inside a number of open angle brackets. One sign can close two. -/
def closing (opened : Nat) : Rule Part :=
  on [.sign "["] (sign "]" ++ part (.closing opened)) <|
    match opened with
    | 0 => done
    | 1 => sign ">" ++ part (.closing 0)
    | n + 2 => on [.sign ">>"] (part (.closing n)) (sign ">" ++ part (.closing (n + 1)))

/-- A type. -/
def type : Rule Part := part (.type 0)

/-- A text behind its type, which is known or an array. A span of time is written in another
way. -/
def typedText : Rule Part :=
  let brackets := sign "[" ++ sign "]" ++ part (.closing 0)
  on [.word "INTERVAL"] brackets (typeOr 0 (customType ++ brackets)) ++ string

end Language

end QueryGate.Sql
