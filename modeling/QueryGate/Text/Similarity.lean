set_option relaxedAutoImplicit false
set_option autoImplicit false

/-!
# Likeness of texts

Two measures of how alike two texts are, both between `0` and `1` and both over characters.

## Main definitions

* `QueryGate.Text.editDistance` — the least number of insertions, deletions and replacements that
  turn one list into another.
* `QueryGate.Text.editRatio` — one minus the edit distance over the longer length.
* `QueryGate.Text.jaro` — the share of characters matched near their place, less a penalty for
  matches out of order.
* `QueryGate.Text.jaroWinkler` — the same with a bonus for a common beginning.
-/

namespace QueryGate.Text

/-- The next row of the table of edit distances. `left` is the entry just written, `diagonal` the
one above it, and the rest of the row above follows. -/
def nextRow (a : Char) (left diagonal : Nat) : List Char → List Nat → List Nat
  | b :: bs, above :: row =>
    let here := min (min (left + 1) (above + 1)) (if a = b then diagonal else diagonal + 1)
    here :: nextRow a here above bs row
  | _, _ => []

/-- The rows of the table of edit distances folded down to the last one. -/
def lastRow (bs : List Char) : List Char → Nat → List Nat → List Nat
  | [], _, row => row
  | a :: as, i, row =>
    match row with
    | [] => []
    | first :: rest => lastRow bs as (i + 1) ((i + 1) :: nextRow a (i + 1) first bs rest)

/-- The least number of insertions, deletions and replacements that turn `a` into `b`. -/
def editDistance (a b : List Char) : Nat :=
  (lastRow b a 0 (List.range (b.length + 1))).getLastD 0

/-- One minus the edit distance over the longer length; two empty texts are alike. -/
def editRatio (a b : String) : Float :=
  let as := a.toList
  let bs := b.toList
  if as.isEmpty && bs.isEmpty then 1.0
  else 1.0 - (editDistance as bs).toFloat / (max as.length bs.length).toFloat

/-- The characters of `bs` after matching `a` with the first free equal one whose place is in the
window from `lo` to `hi`, exclusive; `none` when there is none. Each character of `bs` carries
whether it is taken. -/
def takeMatch (a : Char) (lo hi j : Nat) : List (Char × Bool) → Option (List (Char × Bool))
  | [] => none
  | (b, taken) :: rest =>
    if hi ≤ j then none
    else if lo ≤ j && a == b && !taken then some ((b, true) :: rest)
    else (takeMatch a lo hi (j + 1) rest).map ((b, taken) :: ·)

/-- The matched characters of both texts, each in its own order. -/
def jaroMatches (range : Nat) :
    List Char → Nat → List (Char × Bool) → List Char → List Char × List Char
  | [], _, bs, matched => (matched.reverse, (bs.filter (·.2)).map (·.1))
  | a :: as, i, bs, matched =>
    match takeMatch a (i - range) (i + range + 1) 0 bs with
    | some bs => jaroMatches range as (i + 1) bs (a :: matched)
    | none => jaroMatches range as (i + 1) bs matched

/-- The mean of the share of `a` matched, the share of `b` matched, and the share of matches in
order. A match must lie within half the longer length, less one. -/
def jaro (a b : List Char) : Float :=
  if a.isEmpty && b.isEmpty then 1.0
  else if a.isEmpty || b.isEmpty then 0.0
  else
    let range := max a.length b.length / 2 - 1
    let (inA, inB) := jaroMatches range a 0 (b.map (·, false)) []
    let found := inA.length
    if found = 0 then 0.0
    else
      let swapped := ((inA.zip inB).filter fun (x, y) => x != y).length / 2
      (found.toFloat / a.length.toFloat + found.toFloat / b.length.toFloat +
        (found - swapped).toFloat / found.toFloat) / 3.0

/-- The number of equal characters at the start of two lists. -/
def commonStart : List Char → List Char → Nat
  | a :: as, b :: bs => if a = b then commonStart as bs + 1 else 0
  | _, _ => 0

/-- The Jaro measure, raised for up to four equal characters at the start when it is above `0.7`
already. -/
def jaroWinkler (a b : String) : Float :=
  let as := a.toList
  let bs := b.toList
  let base := jaro as bs
  if base > 0.7 then base + 0.1 * (commonStart (as.take 4) bs).toFloat * (1.0 - base) else base

end QueryGate.Text
