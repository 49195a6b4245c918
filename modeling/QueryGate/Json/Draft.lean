import QueryGate.Json.Basic

set_option relaxedAutoImplicit false
set_option autoImplicit false

/-!
# Drafts of JSON values

A text may go wrong halfway through a value, and some of what is written is a value only as long as
nobody looks at it: a number beyond the doubles, an escape that stands for no character, a list
nested too deep. A draft keeps all of that, so that a reader can go through it in the order written
and meet first what stands first.

## Main definitions

* `QueryGate.Json.Draft` — a value as it stands in a text.
* `QueryGate.Json.Draft.ofJson` — a value as a draft in which nothing is wrong.
* `QueryGate.Json.Draft.toJson?` — the value of a draft in which nothing is wrong.
* `QueryGate.Json.Draft.isWhole` — whether a reader that does not look at a draft gets past it.
-/

namespace QueryGate.Json

/-- A value as it stands in a text. -/
inductive Draft
  /-- The null value. -/
  | null
  /-- A truth value. -/
  | bool (b : Bool)
  /-- A number written as an integer. -/
  | int (n : Int)
  /-- Any other number. -/
  | float (x : Float)
  /-- A text. -/
  | str (s : String)
  /-- A list, and whether it is closed. In one that is not, something is wrong after the items. -/
  | arr (items : List Draft) (closed : Bool)
  /-- An object, and whether it is closed. A key that stands for no text is `none`. -/
  | obj (members : List (Option String × Draft)) (closed : Bool)
  /-- What is a value only as long as nobody looks at it. -/
  | unfit
  /-- What is no value. -/
  | broken
  deriving Inhabited

namespace Draft

mutual

/-- A value as a draft in which nothing is wrong. -/
def ofJson : Json → Draft
  | .null => .null
  | .bool b => .bool b
  | .int n => .int n
  | .float x => .float x
  | .str s => .str s
  | .arr items => .arr (ofItems items) true
  | .obj members => .obj (ofMembers members) true

/-- The items of a list as drafts. -/
def ofItems : List Json → List Draft
  | [] => []
  | j :: rest => ofJson j :: ofItems rest

/-- The members of an object with their values as drafts. -/
def ofMembers : List (String × Json) → List (Option String × Draft)
  | [] => []
  | (key, j) :: rest => (some key, ofJson j) :: ofMembers rest

end

mutual

/-- The value of a draft in which nothing is wrong, with repeated keys as written. -/
def toJson? : Draft → Option Json
  | .null => some .null
  | .bool b => some (.bool b)
  | .int n => some (.int n)
  | .float x => some (.float x)
  | .str s => some (.str s)
  | .arr items closed => if closed then (itemsJson? items).map .arr else none
  | .obj members closed => if closed then (membersJson? members).map .obj else none
  | .unfit => none
  | .broken => none

/-- The values of items, if nothing is wrong in any. -/
def itemsJson? : List Draft → Option (List Json)
  | [] => some []
  | d :: rest =>
    match toJson? d, itemsJson? rest with
    | some j, some js => some (j :: js)
    | _, _ => none

/-- The values of members with their keys, if nothing is wrong in any. -/
def membersJson? : List (Option String × Draft) → Option (List (String × Json))
  | [] => some []
  | (key, d) :: rest =>
    match key, toJson? d, membersJson? rest with
    | some key, some j, some js => some ((key, j) :: js)
    | _, _, _ => none

end

/-- Whether a reader that does not look at a draft gets past it. -/
def isWhole : Draft → Bool
  | arr _ closed => closed
  | obj _ closed => closed
  | broken => false
  | _ => true

end Draft

end QueryGate.Json
