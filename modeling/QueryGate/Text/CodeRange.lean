set_option relaxedAutoImplicit false
set_option autoImplicit false

/-!
# Ranges of character codes

A property of characters as a list of code ranges.

## Main definitions

* `QueryGate.Text.inRanges` — membership of a character in a list of closed ranges.
-/

namespace QueryGate.Text

/-- Membership of a character's code in a list of closed ranges. -/
def inRanges (ranges : List (Nat × Nat)) (c : Char) : Bool :=
  ranges.any fun (lo, hi) => decide (lo ≤ c.toNat) && decide (c.toNat ≤ hi)

end QueryGate.Text
