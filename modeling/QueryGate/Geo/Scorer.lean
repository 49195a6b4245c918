import QueryGate.Text.Blank
import QueryGate.Text.Case
import QueryGate.Text.Similarity
import QueryGate.Text.Split
import QueryGate.Text.WordChar

set_option relaxedAutoImplicit false
set_option autoImplicit false

/-!
# Scoring names

How alike two names of places are, from `0` to `1`, letter case apart.

## Main definitions

* `QueryGate.Scorer.heuristic` — equality, then containment, then the edit ratio.
* `QueryGate.Scorer.jaroWinkler` — the Jaro-Winkler measure with a bonus for containment, over
  letters and numerals alone.
-/

namespace QueryGate

/-- A measure of how alike two names are. -/
abbrev Scorer := String → String → Float

namespace Scorer

/-- Whether one of two texts stands inside the other. -/
def nested (a b : String) : Bool := Text.occursIn b a || Text.occursIn a b

/-- One for equal names, `0.9` where one stands inside the other, and the edit ratio otherwise. -/
def heuristic : Scorer := fun a b =>
  let a := Text.lower (Text.trim a)
  let b := Text.lower (Text.trim b)
  if a.isEmpty || b.isEmpty then 0.0
  else if a == b then 1.0
  else if nested a b then 0.9
  else Text.editRatio a b

/-- A name in lower case without punctuation, with single spaces. -/
def normalize (s : String) : String :=
  let kept := (Text.lower s).toList.filter fun c => Text.isWordChar c || Text.isBlank c
  Text.joined " " (Text.words (String.ofList kept))

/-- The Jaro-Winkler measure, raised by up to `0.1` where one name stands inside the other. -/
def jaroWinkler : Scorer := fun a b =>
  let a := normalize a
  let b := normalize b
  if a.isEmpty || b.isEmpty then 0.0
  else
    let base := Text.jaroWinkler a b
    let bonus :=
      if nested a b then
        let la := a.utf8ByteSize.toFloat
        let lb := b.utf8ByteSize.toFloat
        let longer := (max a.utf8ByteSize b.utf8ByteSize).toFloat
        (1.0 - (la - lb).abs / longer) * 0.1
      else 0.0
    let total := base + bonus
    if total < 1.0 then total else 1.0

end Scorer

end QueryGate
