import QueryGate.Json.Draft
import QueryGate.Json.Numeral
import QueryGate.Text.Hexadecimal

set_option relaxedAutoImplicit false
set_option autoImplicit false

/-!
# Reading JSON

The draft and the value that a text stands for. White space may stand between any two marks,
nothing may follow the value, and lists and objects nest at most 127 deep where they are looked at.

## Main definitions

* `QueryGate.Json.readDraft` — the draft at the start of a text, and what follows it.
* `QueryGate.Json.readRaw?` — the value of a text, with repeated keys as written.
* `QueryGate.Json.read?` — the value of a text, with repeated keys merged.
-/

namespace QueryGate.Json

namespace Reader

/-- The text after white space. -/
def skipBlanks : List Char → List Char
  | c :: cs => if c = ' ' ∨ c = '\n' ∨ c = '\t' ∨ c = '\r' then skipBlanks cs else c :: cs
  | [] => []

/-! ## Texts between quotes -/

/-- What is written between quotes: a character, or a code in hexadecimal. -/
inductive Mark
  /-- A character, as it is or behind a backslash. -/
  | plain (c : Char)
  /-- A code of four hexadecimal digits. -/
  | code (n : Nat)
  deriving DecidableEq, Repr

/-- The code of four hexadecimal digits. -/
def hexCode? (a b c d : Char) : Option Nat := do
  let high := (← Text.hexDigit? a) * 16 + (← Text.hexDigit? b)
  let low := (← Text.hexDigit? c) * 16 + (← Text.hexDigit? d)
  return high * 256 + low

/-- The character that a one-letter escape stands for. -/
def escape? : Char → Option Char
  | '"' => some '"'
  | '\\' => some '\\'
  | '/' => some '/'
  | 'b' => some '\x08'
  | 'f' => some '\x0c'
  | 'n' => some '\n'
  | 'r' => some '\r'
  | 't' => some '\t'
  | _ => none

/-- The marks up to the closing quote, and what follows it. -/
def marks? : List Char → Option (List Mark × List Char)
  | [] => none
  | '"' :: cs => some ([], cs)
  | '\\' :: 'u' :: a :: b :: c :: d :: cs =>
    match hexCode? a b c d with
    | some n => (marks? cs).map fun (ms, rest) => (.code n :: ms, rest)
    | none => none
  | '\\' :: e :: cs =>
    match escape? e with
    | some c => (marks? cs).map fun (ms, rest) => (.plain c :: ms, rest)
    | none => none
  | c :: cs =>
    if c = '\\' ∨ c.toNat < 0x20 then none
    else (marks? cs).map fun (ms, rest) => (.plain c :: ms, rest)

/-- The characters that marks stand for. A code above the first plane is written as two codes, the
halves of a pair; a half on its own stands for no character. -/
def characters? : List Mark → Option (List Char)
  | [] => some []
  | .plain c :: ms => (characters? ms).map (c :: ·)
  | .code n :: ms =>
    if n < 0xD800 ∨ 0xDFFF < n then (characters? ms).map (Char.ofNat n :: ·)
    else if 0xDC00 ≤ n then none
    else
      match ms with
      | .code low :: ms =>
        if low < 0xDC00 ∨ 0xDFFF < low then none
        else
          let joined := 0x10000 + (n - 0xD800) * 0x400 + (low - 0xDC00)
          (characters? ms).map (Char.ofNat joined :: ·)
      | _ => none

/-- The text up to the closing quote, unless it stands for no text, and what follows the quote. -/
def quoted? (cs : List Char) : Option (Option String × List Char) :=
  (marks? cs).map fun (ms, rest) => ((characters? ms).map String.ofList, rest)

/-! ## Values -/

/-- What follows a word at the start of a text. -/
def afterWord? : List Char → List Char → Option (List Char)
  | [], cs => some cs
  | _ :: _, [] => none
  | w :: ws, c :: cs => if w = c then afterWord? ws cs else none

/-- Something that may be wrong altogether, as a draft. -/
def orBroken : Option (Draft × List Char) → Draft × List Char
  | some found => found
  | none => (.broken, [])

/-- A list or an object at a place where lists and objects may still nest `depth` deep. -/
def nested (depth : Nat) (d : Draft) : Draft :=
  if 0 < depth then d else if d.isWhole then .unfit else .broken

mutual

/-- The draft at the start of a text, and what follows it. `depth` is how deep lists and objects
may still nest; the fuel is spent on every value, item and member. -/
def value : Nat → Nat → List Char → Draft × List Char
  | 0, _, _ => (.broken, [])
  | fuel + 1, depth, cs =>
    match skipBlanks cs with
    | [] => (.broken, [])
    | 'n' :: cs => orBroken ((afterWord? ['u', 'l', 'l'] cs).map (.null, ·))
    | 't' :: cs => orBroken ((afterWord? ['r', 'u', 'e'] cs).map (.bool true, ·))
    | 'f' :: cs => orBroken ((afterWord? ['a', 'l', 's', 'e'] cs).map (.bool false, ·))
    | '"' :: cs =>
      orBroken ((quoted? cs).map fun (s, rest) => (s.elim .unfit .str, rest))
    | '[' :: cs =>
      match skipBlanks cs with
      | ']' :: rest => (nested depth (.arr [] true), rest)
      | rest =>
        let (found, closed, rest) := items fuel (depth - 1) rest
        (nested depth (.arr found closed), rest)
    | '\x7b' :: cs =>
      match skipBlanks cs with
      | '\x7d' :: rest => (nested depth (.obj [] true), rest)
      | rest =>
        let (found, closed, rest) := members fuel (depth - 1) rest
        (nested depth (.obj found closed), rest)
    | cs => orBroken ((Numeral.read? cs).map fun (j, rest) => (j.elim .unfit .ofJson, rest))

/-- The items of a list, whether its closing bracket was reached, and what follows. -/
def items : Nat → Nat → List Char → List Draft × Bool × List Char
  | 0, _, _ => ([], false, [])
  | fuel + 1, depth, cs =>
    let (d, rest) := value fuel depth cs
    if d.isWhole then
      match skipBlanks rest with
      | ']' :: rest => ([d], true, rest)
      | ',' :: rest =>
        let (found, closed, rest) := items fuel depth rest
        (d :: found, closed, rest)
      | _ => ([d], false, [])
    else ([d], false, [])

/-- The members of an object, whether its closing brace was reached, and what follows. -/
def members : Nat → Nat → List Char → List (Option String × Draft) × Bool × List Char
  | 0, _, _ => ([], false, [])
  | fuel + 1, depth, cs =>
    match skipBlanks cs with
    | '"' :: cs =>
      match quoted? cs with
      | none => ([], false, [])
      | some (key, rest) =>
        match skipBlanks rest with
        | ':' :: rest =>
          let (d, rest) := value fuel depth rest
          if d.isWhole then
            match skipBlanks rest with
            | '\x7d' :: rest => ([(key, d)], true, rest)
            | ',' :: rest =>
              let (found, closed, rest) := members fuel depth rest
              ((key, d) :: found, closed, rest)
            | _ => ([(key, d)], false, [])
          else ([(key, d)], false, [])
        | _ => ([(key, .broken)], false, [])
    | _ => ([], false, [])

end

/-- How deep lists and objects may nest. -/
def depthLimit : Nat := 127

end Reader

/-- The draft at the start of a text, and what follows it. -/
def readDraft (s : String) : Draft × List Char :=
  let cs := s.toList
  Reader.value (2 * cs.length + 2) Reader.depthLimit cs

/-- Whether what follows a value is nothing but white space. -/
def isEnd (rest : List Char) : Bool := (Reader.skipBlanks rest).isEmpty

/-- The value of a text, with repeated keys as written. -/
def readRaw? (s : String) : Option Json :=
  let (d, rest) := readDraft s
  if isEnd rest then d.toJson? else none

/-- The value of a text, in which a repeated key keeps its first place and its last value. -/
def read? (s : String) : Option Json := (readRaw? s).map merged

end QueryGate.Json
