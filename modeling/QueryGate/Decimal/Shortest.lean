import QueryGate.Decimal.Binary

set_option relaxedAutoImplicit false
set_option autoImplicit false

/-!
# The fewest digits that read back

Every finite double stands for an interval of reals, those that round to it. Among the decimals
in that interval the ones with the fewest digits are taken, and of those the nearest to the value.

## Main definitions

* `QueryGate.Decimal.Digits` — a decimal `digits * 10 ^ exponent`.
* `QueryGate.Decimal.Binary.readsBack` — membership of a decimal in the interval of a value.
* `QueryGate.Decimal.Binary.shortest` — the shortest decimal of a value.
-/

namespace QueryGate.Decimal

/-- The decimal `digits * 10 ^ exponent`. -/
structure Digits where
  /-- The digits, read as a whole number. -/
  digits : Nat
  /-- The power of ten of the last digit. -/
  exponent : Int
  deriving DecidableEq, Repr

/-- Exact comparison of `a * 10 ^ i` with `n * 2 ^ j`. -/
def compareScaled (a : Nat) (i : Int) (n : Nat) (j : Int) : Ordering :=
  compare (a * tenTo i.toNat * twoTo (-j).toNat) (n * twoTo j.toNat * tenTo (-i).toNat)

/-- Membership of a decimal in the interval of reals that round to a value. The ends belong to it
exactly when the value's whole number is even. -/
def Binary.readsBack (x : Binary) (d : Digits) : Bool :=
  let below := compareScaled d.digits d.exponent
    (if x.narrowBelow then 4 * x.m - 1 else 4 * x.m - 2) (x.q - 2)
  let above := compareScaled d.digits d.exponent (4 * x.m + 2) (x.q - 2)
  let closed := x.m % 2 == 0
  (below == .gt || (closed && below == .eq)) && (above == .lt || (closed && above == .eq))

/-- The least `k` from `guess` on, within `tries` steps, for which the value is below `10 ^ k`. -/
def Binary.scaleFrom (x : Binary) : Nat → Int → Int
  | 0, guess => guess
  | tries + 1, guess =>
    if compareScaled 1 guess x.m x.q == .gt then guess else x.scaleFrom tries (guess + 1)

/-- The least `k` for which the value is below `10 ^ k`. The search starts at an estimate from the
binary logarithm that is never above it. -/
def Binary.scale (x : Binary) : Int :=
  x.scaleFrom 4 ((((Nat.log2 x.m : Int) + x.q) * 30103).fdiv 100000)

/-- The whole part of the value over `10 ^ e`. -/
def Binary.over (x : Binary) (e : Int) : Nat :=
  (x.m * twoTo x.q.toNat * tenTo (-e).toNat) / (twoTo (-x.q).toNat * tenTo e.toNat)

/-- The better of the two neighbours of the value on the grid `10 ^ e`, if one reads back. -/
def Binary.onGrid (x : Binary) (e : Int) : Option Digits :=
  let low : Digits := ⟨x.over e, e⟩
  let high : Digits := ⟨x.over e + 1, e⟩
  match x.readsBack low, x.readsBack high with
  | true, true =>
    match compareScaled (2 * low.digits + 1) e (2 * x.m) x.q with
    | .gt => some low
    | .lt => some high
    | .eq => some (if low.digits % 2 = 0 then low else high)
  | true, false => some low
  | false, true => some high
  | false, false => none

/-- A decimal without zeros at its end, within `tries` steps. -/
def Digits.strip : Nat → Digits → Digits
  | 0, d => d
  | tries + 1, d =>
    if d.digits ≠ 0 ∧ d.digits % 10 = 0 then Digits.strip tries ⟨d.digits / 10, d.exponent + 1⟩
    else d

/-- The first hit on the grids of `n` digits and more, within `tries` steps. -/
def Binary.shortestFrom (x : Binary) (scale : Int) : Nat → Nat → Digits
  | 0, n => ⟨x.over (scale - n), scale - n⟩
  | tries + 1, n =>
    match x.onGrid (scale - n) with
    | some d => d
    | none => x.shortestFrom scale tries (n + 1)

/-- The shortest decimal that reads back to the value, the nearest one if there are several. -/
def Binary.shortest (x : Binary) : Digits :=
  if x.m = 0 then ⟨0, 0⟩ else Digits.strip 20 (x.shortestFrom x.scale 17 1)

end QueryGate.Decimal
