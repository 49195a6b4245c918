import QueryGate.Ident

set_option relaxedAutoImplicit false
set_option autoImplicit false

/-!
# Statement text in pieces

The text of a statement is put together from pieces of four kinds: fixed words, quoted names,
places for literals, and whole numbers. No piece is made from a literal, so no literal can become
part of the text.

## Main definitions

* `QueryGate.Sql.Piece` — one piece of statement text.
* `QueryGate.Sql` — statement text as a list of pieces.
* `QueryGate.Sql.render` — the text itself.
-/

namespace QueryGate

/-- One piece of statement text. -/
inductive Sql.Piece
  /-- Words and signs of the language. -/
  | fixed (words : String)
  /-- A name between double quotes. -/
  | quoted (name : String)
  /-- The place of a literal. -/
  | slot
  /-- A whole number. -/
  | number (n : Nat)
  deriving DecidableEq, Repr

/-- Statement text as a list of pieces. -/
abbrev Sql := List Sql.Piece

namespace Sql

/-- The text of one piece. -/
def Piece.text : Piece → String
  | fixed words => words
  | quoted name => "\"" ++ name ++ "\""
  | slot => "?"
  | number n => toString n

/-- The text of a statement. -/
def render (sql : Sql) : String := String.join (sql.map Piece.text)

/-- Fixed words as statement text. -/
def word (words : String) : Sql := [.fixed words]

/-- Statement texts with fixed words between them. -/
def sepBy (separator : String) (parts : List Sql) : Sql :=
  List.intercalate (word separator) parts

/-- A column as statement text. -/
def column (c : Ident) : Sql := [.quoted c.text]

/-- Columns with commas between them. -/
def columns (cs : List Ident) : Sql := sepBy ", " (cs.map column)

/-- A table as statement text. A dotted name is quoted part by part. -/
def tableRef (table : String) : Sql :=
  sepBy "." ((Text.fields '.' table).map fun part => [.quoted part])

/-- `n` places for literals with commas between them. -/
def slots (n : Nat) : Sql := sepBy ", " (List.replicate n [.slot])

end Sql

end QueryGate
