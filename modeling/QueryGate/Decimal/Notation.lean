import QueryGate.Decimal.Shortest

set_option relaxedAutoImplicit false
set_option autoImplicit false

/-!
# Writing decimals

The layout of a decimal: where positional notation ends, and whether a whole number keeps a point.

## Main definitions

* `QueryGate.Decimal.Notation` — the layout decisions of a format.
* `QueryGate.Decimal.Notation.write` — a decimal in a layout.
* `QueryGate.Decimal.fixed` — a double with a set number of decimal places.
-/

namespace QueryGate.Decimal

/-- The layout decisions of a number format. -/
structure Notation where
  /-- Which decimal exponents of the leading digit are written positionally. -/
  positional : Int → Bool
  /-- Whether a whole number in positional notation keeps `.0`. -/
  keepsPoint : Bool
  /-- Whether an exponent that is not negative has a plus sign. -/
  plusSign : Bool

/-- The digits of a natural number in base ten. -/
def digitsOf (n : Nat) : List Char := Nat.toDigits 10 n

/-- A decimal in positional notation. -/
def Digits.positional (keepsPoint : Bool) (d : Digits) : List Char :=
  let cs := digitsOf d.digits
  let point : Int := cs.length + d.exponent
  if 0 ≤ d.exponent then
    cs ++ List.replicate d.exponent.toNat '0' ++ (if keepsPoint then ['.', '0'] else [])
  else if 0 < point then cs.take point.toNat ++ ['.'] ++ cs.drop point.toNat
  else ['0', '.'] ++ List.replicate (-point).toNat '0' ++ cs

/-- A decimal with one digit before the point and an exponent. -/
def Digits.scientific (plusSign : Bool) (d : Digits) : List Char :=
  let cs := digitsOf d.digits
  let power : Int := cs.length - 1 + d.exponent
  cs.take 1 ++ (if cs.length = 1 then [] else '.' :: cs.drop 1) ++ ['e'] ++
    (if power < 0 then ['-'] else if plusSign then ['+'] else []) ++ digitsOf power.natAbs

/-- A decimal in a layout. -/
def Notation.write (layout : Notation) (d : Digits) : List Char :=
  if layout.positional ((digitsOf d.digits).length - 1 + d.exponent) then
    d.positional layout.keepsPoint
  else d.scientific layout.plusSign

/-- A minus sign or nothing. -/
def signOf (negative : Bool) : List Char := if negative then ['-'] else []

/-- What a floating number stands for, in a layout. -/
def Notation.writeReading (layout : Notation) : Reading → List Char
  | .finite negative value => signOf negative ++ layout.write value.shortest
  | .infinite negative => signOf negative ++ ['i', 'n', 'f']
  | .undefined => ['N', 'a', 'N']

/-- A double with its fewest digits, always positionally and without a needless point. -/
def plain (x : Float) : String :=
  match read x with
  | .finite negative value =>
    String.ofList (signOf negative ++ value.shortest.positional false)
  | .infinite negative => String.ofList (signOf negative ++ ['i', 'n', 'f'])
  | .undefined => "NaN"

/-- A double with `places` decimal places, its exact value rounded to nearest, ties to even. -/
def fixed (places : Nat) (x : Float) : String :=
  match read x with
  | .finite negative ⟨m, q, _⟩ =>
    let scaled := roundHalfEven (m * twoTo q.toNat * tenTo places) (twoTo (-q).toNat)
    let fraction := digitsOf (scaled % tenTo places)
    let padded := List.replicate (places - fraction.length) '0' ++ fraction
    String.ofList (signOf negative ++ digitsOf (scaled / tenTo places) ++ '.' :: padded)
  | .infinite negative => String.ofList (signOf negative ++ ['i', 'n', 'f'])
  | .undefined => "NaN"

end QueryGate.Decimal
