set_option relaxedAutoImplicit false
set_option autoImplicit false

/-!
# White space

White space is the property of that name over the whole code space: the ASCII blanks, the
no-break space, and the spaces and line separators of other scripts.

## Main definitions

* `QueryGate.Text.isBlank` — the white-space characters.
* `QueryGate.Text.trim` — a text without the white space at its two ends.
* `QueryGate.Text.words` — the runs between white space.
-/

namespace QueryGate.Text

/-- The white-space characters. -/
def isBlank (c : Char) : Bool :=
  let n := c.toNat
  (decide (0x9 ≤ n) && decide (n ≤ 0xD)) || n == 0x20 || n == 0x85 || n == 0xA0 || n == 0x1680 ||
    (decide (0x2000 ≤ n) && decide (n ≤ 0x200A)) || n == 0x2028 || n == 0x2029 || n == 0x202F ||
    n == 0x205F || n == 0x3000

/-- The characters of a text without the white space at its two ends. -/
def trimChars (cs : List Char) : List Char :=
  ((cs.dropWhile isBlank).reverse.dropWhile isBlank).reverse

/-- A text without the white space at its two ends. -/
def trim (s : String) : String := String.ofList (trimChars s.toList)

/-- The runs of characters between white space; `run` is the run being read, backwards. -/
def wordsFrom (run : List Char) : List Char → List (List Char)
  | [] => if run.isEmpty then [] else [run.reverse]
  | c :: cs =>
    if isBlank c then
      if run.isEmpty then wordsFrom [] cs else run.reverse :: wordsFrom [] cs
    else wordsFrom (c :: run) cs

/-- The non-empty runs of a text between white space, in order. -/
def words (s : String) : List String := (wordsFrom [] s.toList).map String.ofList

end QueryGate.Text
