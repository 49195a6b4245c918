import QueryGate.Json.Basic
import QueryGate.Refusal

set_option relaxedAutoImplicit false
set_option autoImplicit false

/-!
# Values in filters

The ceilings on the values that a filter may hold, checked before their shape is looked at.

## Main definitions

* `QueryGate.checkText` — a text is short and holds no character that might end a literal.
* `QueryGate.checkValue` — the same for every text in a value, and lists are short.
-/

namespace QueryGate

/-- The most characters of a text in a filter. -/
def textLimit : Nat := 500

/-- The most items of a list in a filter. -/
def listLimit : Nat := 100

/-- The characters that might end a literal. -/
def isForbidden (c : Char) : Bool := c == ';' || c == '\'' || c == '"' || c == '\\'

/-- A text in a filter is short and holds no character that might end a literal. -/
def checkText (s : String) : Except Refusal Unit :=
  if textLimit < s.toList.length then .error (.longText s.toList.length)
  else
    match s.toList.find? isForbidden with
    | some c => .error (.forbiddenCharacter c)
    | none => .ok ()

mutual

/-- Every text in a value passes, and so does the length of every list. Objects are not entered. -/
def checkValue : Json → Except Refusal Unit
  | .str s => checkText s
  | .arr items =>
    if listLimit < items.length then .error (.longList items.length) else checkValues items
  | _ => .ok ()

/-- `checkValue` on the items of a list, in order. -/
def checkValues : List Json → Except Refusal Unit
  | [] => .ok ()
  | j :: rest =>
    match checkValue j with
    | .ok () => checkValues rest
    | .error refusal => .error refusal

end

end QueryGate
