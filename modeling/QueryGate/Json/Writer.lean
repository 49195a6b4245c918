import QueryGate.Decimal.Notation
import QueryGate.Json.Basic

set_option relaxedAutoImplicit false
set_option autoImplicit false

/-!
# Writing JSON

The compact text of a value, and its canonical text, in which the members of every object stand
in the order of their keys.

## Main definitions

* `QueryGate.Json.number` — the layout of floating numbers.
* `QueryGate.Json.render` — the compact text of a value.
* `QueryGate.Json.sorted` — the value with members in key order at every depth.
* `QueryGate.Json.canonical` — the compact text of the sorted value.
-/

namespace QueryGate.Json

/-- Floating numbers are written with the fewest digits that identify them, positionally from
`1e-5` to below `1e+16`, and always with a point or an exponent. -/
def number : Decimal.Notation where
  positional e := decide (-5 ≤ e) && decide (e ≤ 15)
  keepsPoint := true
  plusSign := true

/-- The text of a floating number; values without a JSON form are written as null. -/
def floatChars (x : Float) : List Char :=
  match Decimal.read x with
  | .finite negative value => Decimal.signOf negative ++ number.write value.shortest
  | _ => ['n', 'u', 'l', 'l']

/-- The text of an integer. -/
def intChars (n : Int) : List Char := Decimal.signOf (n < 0) ++ Decimal.digitsOf n.natAbs

/-- A character inside a JSON text. -/
def escapedChar (c : Char) : List Char :=
  if c = '"' then ['\\', '"']
  else if c = '\\' then ['\\', '\\']
  else if c = '\n' then ['\\', 'n']
  else if c = '\r' then ['\\', 'r']
  else if c = '\t' then ['\\', 't']
  else if c = '\x08' then ['\\', 'b']
  else if c = '\x0c' then ['\\', 'f']
  else if c.toNat < 0x20 then
    ['\\', 'u', '0', '0', Nat.digitChar (c.toNat / 16), Nat.digitChar (c.toNat % 16)]
  else [c]

/-- A text between quotes. -/
def stringChars (s : String) : List Char := '"' :: s.toList.flatMap escapedChar ++ ['"']

mutual

/-- The characters of a value's compact text. -/
def chars : Json → List Char
  | .null => ['n', 'u', 'l', 'l']
  | .bool true => ['t', 'r', 'u', 'e']
  | .bool false => ['f', 'a', 'l', 's', 'e']
  | .int n => intChars n
  | .float x => floatChars x
  | .str s => stringChars s
  | .arr items => '[' :: itemChars items ++ [']']
  | .obj members => '\x7b' :: memberChars members ++ ['\x7d']

/-- The items of a list with commas between them. -/
def itemChars : List Json → List Char
  | [] => []
  | [j] => chars j
  | j :: rest => chars j ++ ',' :: itemChars rest

/-- The members of an object with commas between them. -/
def memberChars : List (String × Json) → List Char
  | [] => []
  | [(k, v)] => stringChars k ++ ':' :: chars v
  | (k, v) :: rest => stringChars k ++ ':' :: chars v ++ ',' :: memberChars rest

end

/-- The compact text of a value. -/
def render (j : Json) : String := String.ofList (chars j)

/-- Members in the order of their keys. Keys compare by their code points, which is also the order
of their encoded bytes. -/
def Members.sort (members : List (String × Json)) : List (String × Json) :=
  members.mergeSort fun a b => decide (a.1 ≤ b.1)

mutual

/-- The value with the members of every object in the order of their keys. -/
def sorted : Json → Json
  | .arr items => .arr (sortedItems items)
  | .obj members => .obj (Members.sort (sortedMembers members))
  | other => other

/-- `sorted` on the items of a list. -/
def sortedItems : List Json → List Json
  | [] => []
  | j :: rest => sorted j :: sortedItems rest

/-- `sorted` on the values of members. -/
def sortedMembers : List (String × Json) → List (String × Json)
  | [] => []
  | (k, v) :: rest => (k, sorted v) :: sortedMembers rest

end

/-- The compact text of the sorted value. -/
def canonical (j : Json) : String := (sorted j).render

end QueryGate.Json
