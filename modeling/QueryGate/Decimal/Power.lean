set_option relaxedAutoImplicit false
set_option autoImplicit false

/-!
# Powers of two and ten

Floating values are multiples of powers of two, and decimals of powers of ten.

## Main definitions

* `QueryGate.Decimal.twoTo`, `QueryGate.Decimal.tenTo` — the powers.
-/

namespace QueryGate.Decimal

/-- A power of two. -/
def twoTo (n : Nat) : Nat := Nat.pow 2 n

/-- A power of ten. -/
def tenTo (n : Nat) : Nat := Nat.pow 10 n

end QueryGate.Decimal
