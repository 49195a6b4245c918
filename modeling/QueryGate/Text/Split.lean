set_option relaxedAutoImplicit false
set_option autoImplicit false

/-!
# Cutting and searching text

Cutting a text at a separator, and looking for one text inside another.

## Main definitions

* `QueryGate.Text.fields` — the parts of a text between separators, empty ones included.
* `QueryGate.Text.occursIn` — whether a text stands somewhere inside another.
* `QueryGate.Text.firstLine` — the text before the first line end.
-/

namespace QueryGate.Text

/-- The parts of a list between separators; always one more than there are separators. -/
def fieldsOf (sep : Char) : List Char → List (List Char)
  | [] => [[]]
  | c :: cs =>
    if c = sep then [] :: fieldsOf sep cs
    else
      match fieldsOf sep cs with
      | [] => [[c]]
      | field :: rest => (c :: field) :: rest

/-- The parts of a text between separators, empty ones included. -/
def fields (sep : Char) (s : String) : List String := (fieldsOf sep s.toList).map String.ofList

/-- Whether `needle` stands somewhere inside a list of characters. -/
def occursInChars (needle : List Char) : List Char → Bool
  | [] => needle.isEmpty
  | c :: cs => needle.isPrefixOf (c :: cs) || occursInChars needle cs

/-- Whether `needle` stands somewhere inside `text`. -/
def occursIn (needle text : String) : Bool := occursInChars needle.toList text.toList

/-- The text before the first line end; a carriage return just before that end is not part of
it. -/
def firstLine (s : String) : String :=
  let line := s.toList.takeWhile (· != '\n')
  if line.length = s.toList.length then s
  else if line.getLast? = some '\r' then String.ofList line.dropLast
  else String.ofList line

/-- The digits of a natural number in base ten. -/
def decimal (n : Nat) : List Char := Nat.toDigits 10 n

/-- Texts joined by a separator. -/
def joined (sep : String) (parts : List String) : String := String.intercalate sep parts

end QueryGate.Text
