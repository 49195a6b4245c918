import QueryGate.Text.Printable

set_option relaxedAutoImplicit false
set_option autoImplicit false

/-!
# Quoted text

A text between double quotes in which every character can be seen: quotes and backslashes are
escaped, common controls have a letter, and whatever does not print on its own stands as its code
in hexadecimal.

## Main definitions

* `QueryGate.Text.quoted` — the quoted form of a text.
-/

namespace QueryGate.Text

/-- A character's code in hexadecimal, as it stands in quoted text. -/
def escapedCode (c : Char) : List Char :=
  ['\\', 'u', '\x7b'] ++ Nat.toDigits 16 c.toNat ++ ['\x7d']

/-- A character as it stands in quoted text. -/
def quotedChar (c : Char) : List Char :=
  if c = '\x00' then ['\\', '0']
  else if c = '\t' then ['\\', 't']
  else if c = '\r' then ['\\', 'r']
  else if c = '\n' then ['\\', 'n']
  else if c = '\\' then ['\\', '\\']
  else if c = '"' then ['\\', '"']
  else if isExtending c || !isPrintable c then escapedCode c
  else [c]

/-- The quoted form of a text. -/
def quoted (s : String) : String :=
  String.ofList (['"'] ++ s.toList.flatMap quotedChar ++ ['"'])

end QueryGate.Text
