import QueryGate.Text.Hexadecimal

set_option relaxedAutoImplicit false
set_option autoImplicit false

/-!
# Percent signs in paths

A byte of a path may be written as a percent sign and two hexadecimal digits. A percent sign
without them stands for itself.

## Main definitions

* `QueryGate.Text.percentBytes` — the bytes that the bytes of a path stand for.
* `QueryGate.Text.percentDecoded?` — the text that a path stands for.
-/

namespace QueryGate.Text

/-- The byte that two hexadecimal digits stand for. -/
def hexByte? (a b : UInt8) : Option UInt8 := do
  let high ← hexDigit? (Char.ofNat a.toNat)
  let low ← hexDigit? (Char.ofNat b.toNat)
  return UInt8.ofNat (high * 16 + low)

/-- The bytes that the bytes of a path stand for. -/
def percentBytes : List UInt8 → List UInt8
  | 0x25 :: a :: b :: rest =>
    match hexByte? a b with
    | some byte => byte :: percentBytes rest
    | none => 0x25 :: percentBytes (a :: b :: rest)
  | c :: rest => c :: percentBytes rest
  | [] => []

/-- The text that a path stands for; nothing where its bytes are no text. -/
def percentDecoded? (path : String) : Option String :=
  String.fromUTF8? ⟨(percentBytes path.toUTF8.toList).toArray⟩

end QueryGate.Text
