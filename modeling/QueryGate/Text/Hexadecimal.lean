set_option relaxedAutoImplicit false
set_option autoImplicit false

/-!
# Hexadecimal digits

The value of a digit in base sixteen, in either letter case.

## Main definitions

* `QueryGate.Text.hexDigit?` — the value of a digit.
-/

namespace QueryGate.Text

/-- The value of a hexadecimal digit. -/
def hexDigit? (c : Char) : Option Nat :=
  if '0' ≤ c ∧ c ≤ '9' then some (c.toNat - '0'.toNat)
  else if 'a' ≤ c ∧ c ≤ 'f' then some (c.toNat - 'a'.toNat + 10)
  else if 'A' ≤ c ∧ c ≤ 'F' then some (c.toNat - 'A'.toNat + 10)
  else none

end QueryGate.Text
