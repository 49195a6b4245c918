import QueryGate.Text.CaseTable

set_option relaxedAutoImplicit false
set_option autoImplicit false

/-!
# Lower case

The lower-case form of a text. Each character has a form of its own, except the capital sigma,
which becomes a final sigma at the end of a word.

## Main definitions

* `QueryGate.Text.lower` — the lower-case form of a text.
* `QueryGate.Text.sameLetter` — equality of a character with an ASCII letter, letter case apart.
-/

namespace QueryGate.Text

/-- Whether the first character that letter case does not look through has letter case. -/
def meetsCased (cs : List Char) : Bool :=
  match cs.dropWhile isCaseIgnorable with
  | c :: _ => isCased c
  | [] => false

/-- Whether a word ends between what was read, given backwards, and what follows. -/
def endsWord (before after : List Char) : Bool := meetsCased before && !meetsCased after

/-- The lower-case form of the rest of a text; `before` is what was read, backwards. -/
def lowerFrom (before : List Char) : List Char → List Char
  | [] => []
  | c :: cs =>
    (if c = 'Σ' then [if endsWord before cs then 'ς' else 'σ'] else lowerChar c) ++
      lowerFrom (c :: before) cs

/-- The lower-case form of a text. -/
def lower (s : String) : String := String.ofList (lowerFrom [] s.toList)

/-- Equality of a character with a lower-case ASCII letter, letter case apart. The long s and the
Kelvin sign fold to `s` and `k`. -/
def sameLetter (letter c : Char) : Bool :=
  c.toLower == letter || (letter == 's' && c == 'ſ') || (letter == 'k' && c == '\u212A')

/-- What follows a marker at the start of a text, letter case apart. -/
def afterMarker : List Char → List Char → Option (List Char)
  | [], cs => some cs
  | _ :: _, [] => none
  | m :: ms, c :: cs => if sameLetter m c then afterMarker ms cs else none

/-- Equality of two texts, the case of ASCII letters apart. -/
def sameAscii (a b : String) : Bool := a.toList.map Char.toLower == b.toList.map Char.toLower

end QueryGate.Text
