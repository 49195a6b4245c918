import QueryGate.Decimal.Notation
import QueryGate.Text.Split
import QueryGate.Word

set_option relaxedAutoImplicit false
set_option autoImplicit false

/-!
# Lengths of time

Lengths of time are whole numbers of nanoseconds.

## Main definitions

* `QueryGate.Span` — a length of time.
* `QueryGate.Span.ofSeconds?` — a number of seconds as a length of time.
* `QueryGate.Span.text` — a length of time in the largest unit that leaves a whole part.
-/

namespace QueryGate

/-- A length of time in nanoseconds. -/
abbrev Span := Nat

namespace Span

/-- Nanoseconds in a second. -/
def second : Span := 1000000000

/-- Nanoseconds in a millisecond. -/
def millisecond : Span := 1000000

/-- A whole number of milliseconds. -/
def ofMillis (n : Nat) : Span := n * millisecond

/-- A number of seconds rounded to the nearest nanosecond. A negative number and no number count
as nothing; a number of `2 ^ 64` or more seconds is no length of time. -/
def ofSeconds? (x : Float) : Option Span :=
  match Decimal.read x with
  | .finite false ⟨m, q, _⟩ =>
    let num := m * Decimal.twoTo q.toNat
    let den := Decimal.twoTo (-q).toNat
    if Word.maxUnsigned < num / den then none
    else some (Decimal.roundHalfEven (num * second) den)
  | .infinite false => none
  | _ => some 0

/-- The number of seconds in a length of time. -/
def seconds (t : Span) : Float :=
  Decimal.ofNat (t / second) + Decimal.ofNat (t % second) / 1000000000.0

/-- A whole part and a fraction of `places` digits, without the zeros at its end. -/
def withFraction (whole fraction places : Nat) : List Char :=
  let digits := Text.decimal fraction
  let padded := List.replicate (places - digits.length) '0' ++ digits
  let kept := (padded.reverse.dropWhile (· == '0')).reverse
  Text.decimal whole ++ (if kept.isEmpty then [] else '.' :: kept)

/-- A length of time in the largest unit that leaves a whole part, with as many decimal places as
it needs. -/
def text (t : Span) : String :=
  String.ofList <|
    if second ≤ t then withFraction (t / second) (t % second) 9 ++ ['s']
    else if millisecond ≤ t then withFraction (t / millisecond) (t % millisecond) 6 ++ ['m', 's']
    else if 1000 ≤ t then withFraction (t / 1000) (t % 1000) 3 ++ ['µ', 's']
    else Text.decimal t ++ ['n', 's']

end Span

end QueryGate
