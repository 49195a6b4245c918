set_option relaxedAutoImplicit false
set_option autoImplicit false

/-!
# JSON values

A JSON value whose objects keep their members in the order written. A number is an integer when
it is written as one and fits 64 bits, and a double otherwise.

## Main definitions

* `QueryGate.Json` — a JSON value.
* `QueryGate.Json.unread` — what is said of a text that is not JSON.
* `QueryGate.Json.merged` — the value in which a repeated key keeps its first place and its last
  value.
* `QueryGate.Json.get`, `QueryGate.Json.item` — lookup by key and by position.
-/

namespace QueryGate

/-- A JSON value. Objects keep their members in the order written. -/
inductive Json
  /-- The null value. -/
  | null
  /-- A truth value. -/
  | bool (b : Bool)
  /-- A number written as an integer. -/
  | int (n : Int)
  /-- Any other number. -/
  | float (x : Float)
  /-- A text. -/
  | str (s : String)
  /-- A list. -/
  | arr (items : List Json)
  /-- An object. -/
  | obj (members : List (String × Json))
  deriving Inhabited

namespace Json

/-- What is said of a text that is not JSON. It stands in the place of a library's own message, which
tells where the text goes wrong and in which way; nothing depends on that. -/
def unread : String := "no single value was read"

/-- The members of an object. -/
abbrev Members := List (String × Json)

/-- The members after giving `key` a value: in place if the key is there, at the end if not. -/
def Members.put (key : String) (value : Json) : Members → Members
  | [] => [(key, value)]
  | (k, v) :: rest =>
    if k = key then (k, value) :: rest else (k, v) :: Members.put key value rest

/-- Members in which a repeated key keeps its first place and its last value. -/
def Members.ofList (members : List (String × Json)) : Members :=
  members.foldl (fun done (k, v) => Members.put k v done) []

mutual

/-- The value in which, at every depth, a repeated key keeps its first place and its last value. -/
def merged : Json → Json
  | .arr items => .arr (mergedItems items)
  | .obj members => .obj (Members.ofList (mergedMembers members))
  | other => other

/-- `merged` on the items of a list. -/
def mergedItems : List Json → List Json
  | [] => []
  | j :: rest => merged j :: mergedItems rest

/-- `merged` on the values of members. -/
def mergedMembers : List (String × Json) → List (String × Json)
  | [] => []
  | (k, v) :: rest => (k, merged v) :: mergedMembers rest

end

/-- The value of a key; null where there is none. -/
def get (j : Json) (key : String) : Json :=
  match j with
  | .obj members => (members.lookup key).getD .null
  | _ => .null

/-- The item of a list at a position; null where there is none. -/
def item (j : Json) (i : Nat) : Json :=
  match j with
  | .arr items => items.getD i .null
  | _ => .null

/-- The text of a value that is one. -/
def text? : Json → Option String
  | .str s => some s
  | _ => none

/-- The items of a value that is a list. -/
def items? : Json → Option (List Json)
  | .arr items => some items
  | _ => none

/-- A list of texts. -/
def strings (texts : List String) : Json := .arr (texts.map .str)

/-- A text or null. -/
def ofText? : Option String → Json
  | some s => .str s
  | none => .null

/-- A natural number. -/
def ofNat (n : Nat) : Json := .int n

/-- A natural number or null. -/
def ofNat? : Option Nat → Json
  | some n => .int n
  | none => .null

/-- A number, or null where it has no JSON form. -/
def ofFloat (x : Float) : Json := if x.isFinite then .float x else .null

end Json

end QueryGate
