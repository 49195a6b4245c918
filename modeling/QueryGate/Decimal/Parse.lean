import QueryGate.Decimal.Binary
import QueryGate.Text.Case

set_option relaxedAutoImplicit false
set_option autoImplicit false

/-!
# Reading numbers from text

Whole numbers with an optional sign, and the free form of floating numbers: an optional sign, then
an infinity, a "not a number", or digits with an optional point and an optional exponent.

## Main definitions

* `QueryGate.Decimal.natural?` — a run of digits.
* `QueryGate.Decimal.unsigned?`, `QueryGate.Decimal.signed?` — whole numbers with a sign.
* `QueryGate.Decimal.float?` — floating numbers in free form, rounded to nearest.
-/

namespace QueryGate.Decimal

/-- The value of a list of digits, read after the digits that make `acc`. -/
def digitsValue (acc : Nat) : List Char → Nat
  | [] => acc
  | c :: cs => digitsValue (acc * 10 + (c.toNat - '0'.toNat)) cs

/-- The value of a non-empty list that holds digits only. -/
def natural? (cs : List Char) : Option Nat :=
  if cs.isEmpty || !cs.all Char.isDigit then none else some (digitsValue 0 cs)

/-- A whole number with an optional plus sign. -/
def unsigned? (s : String) : Option Nat :=
  match s.toList with
  | '+' :: cs => natural? cs
  | cs => natural? cs

/-- A whole number with an optional sign. -/
def signed? (s : String) : Option Int :=
  match s.toList with
  | '+' :: cs => (natural? cs).map Int.ofNat
  | '-' :: cs => (natural? cs).map fun n => -(n : Int)
  | cs => (natural? cs).map Int.ofNat

/-- The exponent after a number's digits: nothing, or `e` and a whole number. -/
def exponent? : List Char → Option Int
  | [] => some 0
  | c :: cs => if c = 'e' ∨ c = 'E' then signed? (String.ofList cs) else none

/-- A floating number without its sign. At least one digit stands before or after the point. -/
def magnitude? (cs : List Char) : Option Float :=
  let word := cs.map Char.toLower
  if word = ['i', 'n', 'f'] || word = ['i', 'n', 'f', 'i', 'n', 'i', 't', 'y'] then some infinity
  else if word = ['n', 'a', 'n'] then some notANumber
  else
    let whole := cs.takeWhile Char.isDigit
    let rest := cs.dropWhile Char.isDigit
    let fraction := match rest with | '.' :: r => r.takeWhile Char.isDigit | _ => []
    let rest := match rest with | '.' :: r => r.dropWhile Char.isDigit | r => r
    if whole.isEmpty && fraction.isEmpty then none
    else
      (exponent? rest).map fun e =>
        ofDecimal (digitsValue 0 (whole ++ fraction)) (e - (fraction.length : Int))

/-- A floating number in free form, rounded to the nearest double. -/
def float? (s : String) : Option Float :=
  match s.toList with
  | '+' :: cs => magnitude? cs
  | '-' :: cs => (magnitude? cs).map fun x => -x
  | cs => magnitude? cs

end QueryGate.Decimal
