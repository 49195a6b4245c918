import QueryGate.Refusal

set_option relaxedAutoImplicit false
set_option autoImplicit false

/-!
# Names

The names of columns, tables and datasets. A name is a short run of ASCII letters, digits,
underscores, dots and hyphens, without two dots in a row and not a keyword of the query language.
No name holds a quote, so a quoted name cannot end early.

## Main definitions

* `QueryGate.nameFault?` — what is wrong with a name, the first fault found.
* `QueryGate.Ident` — a name that may stand as a column or a table.
* `QueryGate.checkFileId` — the names of datasets, which have three parts.
-/

namespace QueryGate

/-- The alphabet of names. -/
def isNameChar (c : Char) : Bool := c.isAlphanum || c == '_' || c == '.' || c == '-'

/-- The keywords that are no names. -/
def reservedWords : List String :=
  ["select", "from", "where", "insert", "update", "delete", "drop", "create", "alter", "exec",
    "execute", "union"]

/-- Whether a list of characters leads out of its directory: it holds a slash, a backslash or two
dots in a row. -/
def isPathLike : List Char → Bool
  | '.' :: '.' :: _ => true
  | c :: cs => c == '/' || c == '\\' || isPathLike cs
  | [] => false

/-- The lower-case form of a name. Names are ASCII once the alphabet is checked. -/
def lowerName (name : String) : String := String.ofList (name.toList.map Char.toLower)

/-- What is wrong with a name of at most `limit` bytes, the first fault found. -/
def nameFault? (limit : Nat) (name : String) : Option NameFault :=
  if name.toList.isEmpty then some .empty
  else if limit < name.utf8ByteSize then some .tooLong
  else if isPathLike name.toList then some .pathLike
  else if !name.toList.all isNameChar then some .badCharacter
  else if reservedWords.contains (lowerName name) then some .reserved
  else none

/-- The most bytes that the name of a column or a table may have. -/
def identLimit : Nat := 100

/-- A name that may stand as a column or a table. -/
structure Ident where
  /-- The name. -/
  text : String
  /-- The name has no fault. -/
  sound : nameFault? identLimit text = none
  deriving DecidableEq

namespace Ident

/-- A name that may stand as a column or a table, or the fault, told as one of `kind`. -/
def ofKind (kind : NameKind) (name : String) : Except Refusal Ident :=
  match h : nameFault? identLimit name with
  | none => .ok ⟨name, h⟩
  | some fault => .error (.badName kind name fault)

/-- The name of a column. -/
def column (name : String) : Except Refusal Ident := ofKind .column name

/-- The name of a table. -/
def table (name : String) : Except Refusal Ident := ofKind .table name

/-- The name made of a column's name and a suffix, which must be a good name again. -/
def withSuffix (c : Ident) (suffix : String) : Except Refusal Ident :=
  column (c.text ++ "_" ++ suffix)

end Ident

/-- Whether a text is a good name of its kind. -/
def checkName (kind : NameKind) (name : String) : Except Refusal Unit :=
  match nameFault? kind.limit name with
  | none => .ok ()
  | some fault => .error (.badName kind name fault)

/-- Whether a text names a dataset: a good name of three non-empty parts between hyphens. -/
def checkFileId (id : String) : Except Refusal Unit := do
  checkName .fileId id
  let parts := Text.fields '-' id
  if parts.length ≠ 3 || parts.any (·.isEmpty) then throw (.fileIdShape id)

end QueryGate
