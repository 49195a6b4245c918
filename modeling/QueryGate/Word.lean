set_option relaxedAutoImplicit false
set_option autoImplicit false

/-!
# The range of 64 bits and of 32

The largest numbers that 64 bits hold, with a sign and without, and the ways in which an integer is
brought to 32 bits.

## Main definitions

* `QueryGate.Word.maxUnsigned` — the largest natural number.
* `QueryGate.Word.minSigned`, `QueryGate.Word.maxSigned` — the smallest and the largest integer.
* `QueryGate.Word.isSigned` — whether an integer fits.
* `QueryGate.Word.sum32?` — a sum, where 32 bits hold it.
* `QueryGate.Word.natural32?` — a natural number, where 32 bits hold it.
* `QueryGate.Word.low32` — what 32 bits keep of an integer.
-/

namespace QueryGate.Word

/-- The largest natural number that 64 bits hold. -/
def maxUnsigned : Nat := 18446744073709551615

/-- The smallest integer that 64 bits hold. -/
def minSigned : Int := -9223372036854775808

/-- The largest integer that 64 bits hold. -/
def maxSigned : Int := 9223372036854775807

/-- Whether 64 bits hold an integer. -/
def isSigned (n : Int) : Bool := decide (minSigned ≤ n) && decide (n ≤ maxSigned)

/-- The sum of two integers, where 32 bits hold it with its sign. -/
def sum32? (a b : Int) : Option Int :=
  if -2147483648 ≤ a + b ∧ a + b ≤ 2147483647 then some (a + b) else none

/-- An integer as a natural number, where 32 bits hold it without a sign. -/
def natural32? (n : Int) : Option Nat :=
  if 0 ≤ n ∧ n ≤ 4294967295 then some n.toNat else none

/-- The natural number in the lowest 32 bits of an integer. -/
def low32 (n : Int) : Nat := (n % 4294967296).toNat

end QueryGate.Word
