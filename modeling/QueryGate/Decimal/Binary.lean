import QueryGate.Decimal.Power

set_option relaxedAutoImplicit false
set_option autoImplicit false

/-!
# Binary floating values as exact fractions

A finite floating value is a whole number times a power of two. This module takes doubles apart
into that form and goes the other way, from an exact fraction to the nearest floating value.

## Main definitions

* `QueryGate.Decimal.Binary` — a non-negative finite value `m * 2 ^ q`.
* `QueryGate.Decimal.Reading` — what a double stands for: a signed finite value, an infinity, or
  no number.
* `QueryGate.Decimal.roundHalfEven` — a quotient rounded to nearest, ties to the even neighbour.
* `QueryGate.Decimal.ofRatio` — the double nearest to a fraction.
* `QueryGate.Decimal.toSingle` — a double rounded to single precision.
* `QueryGate.Decimal.ofDecimal` — the double nearest to `digits * 10 ^ exponent`.
-/

namespace QueryGate.Decimal

/-- A non-negative finite value `m * 2 ^ q`. -/
structure Binary where
  /-- The whole number. -/
  m : Nat
  /-- The power of two. -/
  q : Int
  /-- Whether the gap to the value below is half the gap to the value above. -/
  narrowBelow : Bool
  deriving DecidableEq, Repr

/-- What a double stands for. -/
inductive Reading
  /-- A finite value with its sign. -/
  | finite (negative : Bool) (value : Binary)
  /-- An infinity with its sign. -/
  | infinite (negative : Bool)
  /-- No number. -/
  | undefined
  deriving DecidableEq, Repr

/-- What a double stands for, read off its bits. -/
def read (x : Float) : Reading :=
  let bits : Nat := x.toBits.toNat
  let negative := decide (twoTo 63 ≤ bits)
  let exponent : Nat := bits / twoTo 52 % twoTo 11
  let fraction : Nat := bits % twoTo 52
  if exponent = 0x7FF then
    if fraction = 0 then .infinite negative else .undefined
  else if exponent = 0 then .finite negative ⟨fraction, -1074, false⟩
  else
    .finite negative
      ⟨twoTo 52 + fraction, (exponent : Int) - 1075, fraction == 0 && decide (1 < exponent)⟩

/-- A quotient rounded to the nearest whole number, ties to the even one. -/
def roundHalfEven (num den : Nat) : Nat :=
  let whole := num / den
  let rest := num % den
  if 2 * rest < den then whole
  else if den < 2 * rest then whole + 1
  else if whole % 2 = 0 then whole
  else whole + 1

/-- The power of two of the last place that a fraction keeps when it is rounded to `precision`
binary digits with none below `2 ^ leastExponent`. -/
def lastPlace (precision : Nat) (leastExponent : Int) (num den : Nat) : Int :=
  let guess : Int := (Nat.log2 num : Int) - (Nat.log2 den : Int)
  let top := if num * twoTo (-guess).toNat < den * twoTo guess.toNat then guess - 1 else guess
  max (top - (precision - 1 : Nat)) leastExponent

/-- A fraction rounded to `precision` binary digits with none below `2 ^ leastExponent`, as a
whole number and a power of two. -/
def nearest (precision : Nat) (leastExponent : Int) (num den : Nat) : Nat × Int :=
  if num = 0 then (0, leastExponent)
  else
    let q := lastPlace precision leastExponent num den
    (roundHalfEven (num * twoTo (-q).toNat) (den * twoTo q.toNat), q)

/-- A double with a sign. -/
def withSign (negative : Bool) (x : Float) : Float := if negative then -x else x

/-- The infinite double. -/
def infinity : Float := Float.ofBits 0x7FF0000000000000

/-- The double that is no number. -/
def notANumber : Float := Float.ofBits 0x7FF8000000000000

/-- The double nearest to a fraction; infinite when the fraction is beyond the largest one. -/
def ofRatio (num den : Nat) : Float :=
  let (m, q) := nearest 53 (-1074) num den
  let bits := m + (q + 1074).toNat * twoTo 52
  if 0x7FF0000000000000 ≤ bits then infinity else Float.ofBits (UInt64.ofNat bits)

/-- The double nearest to a whole number. -/
def ofNat (n : Nat) : Float := ofRatio n 1

/-- The double nearest to an integer. -/
def ofInt (n : Int) : Float := withSign (n < 0) (ofNat n.natAbs)

/-- The double nearest to `digits * 10 ^ exponent`. Exponents far outside the range of doubles
are settled by the number of digits alone. -/
def ofDecimal (digits : Nat) (exponent : Int) : Float :=
  if digits = 0 then 0.0
  else
    let places : Int := (Nat.toDigits 10 digits).length
    if 310 < exponent + places then infinity
    else if exponent + places < -330 then 0.0
    else ofRatio (digits * tenTo exponent.toNat) (tenTo (-exponent).toNat)

/-- What a double stands for after rounding to single precision, among the values of that
precision. A value beyond the largest one is not brought to an infinity. -/
def readSingle (x : Float) : Reading :=
  match read x with
  | .finite negative ⟨m, q, _⟩ =>
    let (m, q) := nearest 24 (-149) (m * twoTo q.toNat) (twoTo (-q).toNat)
    .finite negative ⟨m, q, m == twoTo 23 && decide (-149 < q)⟩
  | other => other

/-- A double rounded to single precision. -/
def toSingle (x : Float) : Float :=
  match read x with
  | .finite negative ⟨m, q, _⟩ =>
    let (m, q) := nearest 24 (-149) (m * twoTo q.toNat) (twoTo (-q).toNat)
    if twoTo 128 ≤ m * twoTo q.toNat then withSign negative infinity
    else withSign negative (ofRatio (m * twoTo q.toNat) (twoTo (-q).toNat))
  | _ => x

end QueryGate.Decimal
