import QueryGate.Decimal.Parse
import QueryGate.Json.Basic
import QueryGate.Word

set_option relaxedAutoImplicit false
set_option autoImplicit false

/-!
# Reading JSON numbers

A number is read in one pass. Its leading digits are gathered as long as they fit 64 bits and the
rest only count towards the exponent; the gathered digits are then scaled by one power of ten. A
number without point and exponent that fits 64 bits stays an integer, except for minus zero.

## Main definitions

* `QueryGate.Json.Numeral.gather` — the digits that fit, and how many do not.
* `QueryGate.Json.Numeral.scale?` — gathered digits times a power of ten.
* `QueryGate.Json.Numeral.read?` — a number at the start of a text, and what follows it. A number
  beyond the doubles is well formed but has no value.
-/

namespace QueryGate.Json.Numeral

/-- The digits that fit 64 bits after those that make `acc`, and how many digits are left out. -/
def gather (acc : Nat) : List Char → Nat × Nat
  | [] => (acc, 0)
  | c :: cs =>
    let next := acc * 10 + (c.toNat - '0'.toNat)
    if next ≤ Word.maxUnsigned then gather next cs else (acc, cs.length + 1)

/-- Division by `10 ^ e` in steps of `10 ^ 308`, at most `steps` of them. -/
def scaleDown : Nat → Float → Nat → Float
  | 0, x, _ => x
  | steps + 1, x, e =>
    if e ≤ 308 then x / Decimal.ofDecimal 1 e
    else if x == 0.0 then x
    else scaleDown steps (x / Decimal.ofDecimal 1 308) (e - 308)

/-- Gathered digits times `10 ^ e`; nothing where the product is beyond the doubles. -/
def scale? (digits : Nat) (e : Int) : Option Float :=
  let x := Decimal.ofNat digits
  if e < 0 then some (scaleDown 8 x e.natAbs)
  else if e ≤ 308 then
    let y := x * Decimal.ofDecimal 1 e
    if y.isInf then none else some y
  else if x == 0.0 then some x
  else none

/-- Where an exponent too long for 32 bits leads: to zero, or beyond the doubles. -/
def farAway (digits : Nat) (down : Bool) : Option Float :=
  if digits = 0 || down then some 0.0 else none

/-- The value of gathered digits with an exponent of their own, unless it is beyond the doubles,
and what follows. -/
def exponentPart? (digits : Nat) (e : Int) (cs : List Char) :
    Option (Option Float × List Char) :=
  let down := cs.head? = some '-'
  let cs := match cs with
    | '+' :: rest => rest
    | '-' :: rest => rest
    | rest => rest
  let power := cs.takeWhile Char.isDigit
  let rest := cs.dropWhile Char.isDigit
  if power.isEmpty then none
  else
    let size := Decimal.digitsValue 0 power
    let value :=
      if 0x80000000 ≤ size then farAway digits down
      else scale? digits (if down then e - (size : Int) else e + (size : Int))
    some (value, rest)

/-- The value of gathered digits with what follows them: perhaps an exponent. -/
def tail? (digits : Nat) (e : Int) : List Char → Option (Option Float × List Char)
  | 'e' :: cs => exponentPart? digits e cs
  | 'E' :: cs => exponentPart? digits e cs
  | cs => some (scale? digits e, cs)

/-- The integer or double that a sign and digits without point and exponent stand for. -/
def whole (negative : Bool) (n : Nat) : Json :=
  if !negative then .int n
  else if n = 0 || !Word.isSigned (-(n : Int)) then .float (-(Decimal.ofNat n))
  else .int (-(n : Int))

/-- A number after its sign, unless it is beyond the doubles, and what follows it. -/
def unsigned? (negative : Bool) (cs : List Char) : Option (Option Json × List Char) :=
  let digits := cs.takeWhile Char.isDigit
  let rest := cs.dropWhile Char.isDigit
  let signed := fun ((x, rest) : Option Float × List Char) =>
    (x.map fun x => Json.float (Decimal.withSign negative x), rest)
  if digits.isEmpty || (digits.head? = some '0' && 1 < digits.length) then none
  else
    let (value, left) := gather 0 digits
    match rest with
    | '.' :: rest =>
      let fraction := rest.takeWhile Char.isDigit
      let rest := rest.dropWhile Char.isDigit
      if fraction.isEmpty then none
      else
        let (value, unread) := gather value fraction
        let places : Int := (fraction.length - unread : Nat)
        (tail? value ((left : Int) - places) rest).map signed
    | 'e' :: _ | 'E' :: _ => (tail? value left rest).map signed
    | _ =>
      if left = 0 then some (some (whole negative value), rest)
      else (tail? value left rest).map signed

/-- A number at the start of a text, unless it is beyond the doubles, and what follows it. -/
def read? : List Char → Option (Option Json × List Char)
  | '-' :: cs => unsigned? true cs
  | cs => unsigned? false cs

end QueryGate.Json.Numeral
