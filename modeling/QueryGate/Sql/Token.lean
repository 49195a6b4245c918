import QueryGate.Text.Blank
import QueryGate.Text.Letter

set_option relaxedAutoImplicit false
set_option autoImplicit false

/-!
# Tokens of statement text

The words, constants and signs that a statement is written in. White space and comments only
divide them.

## Main definitions

* `QueryGate.Sql.Token` — a word, a quoted name, a text, a number, a place or a sign.
* `QueryGate.Sql.tokens?` — the tokens of a text.
-/

namespace QueryGate.Sql

/-- A way to write a text that is not plain. -/
inductive Writing
  /-- With escapes, after an `E`. -/
  | escaped
  /-- In a national character set, after an `N`. -/
  | national
  /-- In hexadecimal digits. -/
  | hexadecimal
  /-- Between marks with dollar signs. -/
  | marked
  deriving DecidableEq, Repr

/-- A token of statement text. -/
inductive Token
  /-- A bare word, in upper case. `capital` says that it is written so. -/
  | word (text : String) (capital : Bool)
  /-- A name between double quotes or back quotes. -/
  | quoted (mark : Char) (name : String)
  /-- A text between single quotes. -/
  | text (content : String)
  /-- A text that is not plain. -/
  | written (way : Writing)
  /-- A number as written. `long` says that it is marked as long. -/
  | number (text : String) (long : Bool)
  /-- The place of a literal. -/
  | place
  /-- A sign. -/
  | sign (text : String)
  deriving DecidableEq, Repr

namespace Scan

/-! ## Words -/

/-- A character in upper case. Only the ASCII letters, and those that become ASCII letters, are
changed. -/
def upper (c : Char) : List Char :=
  match c with
  | 'ı' => ['I']
  | 'ſ' => ['S']
  | 'ß' => ['S', 'S']
  | 'ﬀ' => ['F', 'F']
  | 'ﬁ' => ['F', 'I']
  | 'ﬂ' => ['F', 'L']
  | 'ﬃ' => ['F', 'F', 'I']
  | 'ﬄ' => ['F', 'F', 'L']
  | 'ﬅ' | 'ﬆ' => ['S', 'T']
  | _ => [c.toUpper]

/-- The characters that open a bare word. -/
def opensWord (c : Char) : Bool := Text.isLetter c || c == '_'

/-- The characters inside a bare word. -/
def staysInWord (c : Char) : Bool := Text.isLetter c || c.isDigit || c == '$' || c == '_'

/-- The bare word at the start of a text, and what follows it. -/
def word (cs : List Char) : Token × List Char :=
  let written := cs.takeWhile staysInWord
  let capitals := written.flatMap upper
  (.word (String.ofList capitals) (written = capitals), cs.dropWhile staysInWord)

/-! ## Quotes and comments -/

/-- What stands before the closing quote, and what follows it. A quote inside is written twice. -/
def untilQuote? (q : Char) : List Char → Option (List Char × List Char)
  | [] => none
  | [c] => if c = q then some ([], []) else none
  | c :: d :: cs =>
    if c = q then
      if d = q then (untilQuote? q cs).map fun (s, rest) => (q :: s, rest) else some ([], d :: cs)
    else (untilQuote? q (d :: cs)).map fun (s, rest) => (c :: s, rest)

/-- The text after a closing quote. A quote inside is written twice or after a backslash. -/
def afterEscaped? : List Char → Option (List Char)
  | [] => none
  | '\\' :: _ :: cs => afterEscaped? cs
  | '\'' :: '\'' :: cs => afterEscaped? cs
  | '\'' :: cs => some cs
  | _ :: cs => afterEscaped? cs

/-- The text after the first two dollar signs in a row. -/
def afterDollars? : List Char → Option (List Char)
  | [] => none
  | '$' :: '$' :: cs => some cs
  | _ :: cs => afterDollars? cs

/-- The text after a comment that may hold comments. `depth` counts those open inside it, `last`
is the character before. -/
def afterComment? (depth : Nat) (last : Char) : List Char → Option (List Char)
  | [] => none
  | c :: cs =>
    if last = '/' ∧ c = '*' then afterComment? (depth + 1) c cs
    else if last = '*' ∧ c = '/' then
      if depth = 0 then some cs else afterComment? (depth - 1) c cs
    else afterComment? depth c cs

/-- The token that opens with a dollar sign, which is left out here: a place with a name, or a
text between two marks. A mark with a name has to close at the next dollar sign. -/
def dollar? (cs : List Char) : Option (Token × List Char) :=
  let inName := fun c => Text.isWordChar c || c == '_'
  match cs.takeWhile inName, cs.dropWhile inName with
  | [], '$' :: rest => (afterDollars? rest).map (.written .marked, ·)
  | name, '$' :: rest =>
    let mark := '$' :: name ++ ['$']
    let ending := rest.dropWhile (· ≠ '$')
    if mark.isPrefixOf ending then some (.written .marked, ending.drop mark.length) else none
  | _, rest => some (.place, rest)

/-! ## Numbers -/

/-- The text after an exponent, if one stands there. -/
def afterExponent (cs : List Char) : List Char :=
  match cs with
  | e :: rest =>
    let unsigned :=
      match rest with
      | s :: more => if s = '+' ∨ s = '-' then more else rest
      | [] => rest
    if (e = 'e' ∨ e = 'E') ∧ (unsigned.head?.any Char.isDigit) then
      unsigned.dropWhile Char.isDigit
    else cs
  | [] => cs

/-- The hexadecimal digits. -/
def isHexDigit (c : Char) : Bool := c.isDigit || ('a' ≤ c && c ≤ 'f') || ('A' ≤ c && c ≤ 'F')

/-- The number or the point at the start of a text, and what follows it. -/
def number (cs : List Char) : Token × List Char :=
  let afterWhole := cs.dropWhile Char.isDigit
  match cs.takeWhile Char.isDigit, afterWhole with
  | ['0'], 'x' :: rest => (.written .hexadecimal, rest.dropWhile isHexDigit)
  | whole, _ =>
    let afterPoint := if afterWhole.head? = some '.' then afterWhole.drop 1 else afterWhole
    if whole = [] ∧ !afterPoint.head?.any Char.isDigit then (.sign ".", afterPoint)
    else
      let rest := afterExponent (afterPoint.dropWhile Char.isDigit)
      let text := String.ofList (cs.take (cs.length - rest.length))
      match rest with
      | 'L' :: more => (.number text true, more)
      | _ => (.number text false, rest)

/-! ## Signs -/

/-- The signs of more than one character, each before those that it begins with. -/
def longSigns : List String := [
  "<=>", "->>", "#>>", "!~*", "||/", "<=", "<>", "<<", "<@", ">=", ">>", "->", "=>", "==", "!=",
  "!!", "!~", "||", "|/", "::", ":=", "&&", "^@", "~*", "#-", "#>", "@>", "@?", "@@", "//"]

/-- The sign at the start of a text, and what follows it. -/
def sign (c : Char) (cs : List Char) : Token × List Char :=
  match longSigns.find? fun s => s.toList.isPrefixOf (c :: cs) with
  | some s => (.sign s, (c :: cs).drop s.length)
  | none => (.sign (String.singleton c), cs)

/-! ## All tokens -/

/-- The token that opens with a letter, and what follows it. Some letters before a text say how it
is written. -/
def lettered? (c : Char) (cs : List Char) : Option (Token × List Char) :=
  let plain (way : Writing) (rest : List Char) :=
    (untilQuote? '\'' rest).map fun (_, after) => (.written way, after)
  match c.toUpper, cs with
  | 'E', '\'' :: rest => (afterEscaped? rest).map (.written .escaped, ·)
  | 'N', '\'' :: rest => plain .national rest
  | 'X', '\'' :: rest => plain .hexadecimal rest
  | _, _ => some (word (c :: cs))

/-- The token at the start of a text, and what follows it. White space and comments are no
tokens. -/
def next? (c : Char) (cs : List Char) : Option (Option Token × List Char) :=
  if Text.isBlank c then some (none, cs)
  else if opensWord c then (lettered? c cs).map fun (t, rest) => (some t, rest)
  else if c.isDigit ∨ c = '.' then
    let (t, rest) := number (c :: cs)
    some (some t, rest)
  else
    match c, cs with
    | '-', '-' :: rest => some (none, rest.dropWhile (· ≠ '\n'))
    | '/', '*' :: rest => (afterComment? 0 ' ' rest).map (none, ·)
    | '\'', _ => (untilQuote? c cs).map fun (s, rest) => (some (.text (String.ofList s)), rest)
    | '"', _ | '\x60', _ =>
      (untilQuote? c cs).map fun (s, rest) => (some (.quoted c (String.ofList s)), rest)
    | '?', _ => some (some .place, cs.dropWhile Text.isNumeral)
    | '$', _ => (dollar? cs).map fun (t, rest) => (some t, rest)
    | _, _ =>
      let (t, rest) := sign c cs
      some (some t, rest)

/-- The tokens of a text given as characters. -/
def tokens? : List Char → Option (List Token)
  | [] => some []
  | c :: cs =>
    match next? c cs with
    | none => none
    | some (t, rest) =>
      if rest.length ≤ cs.length then (tokens? rest).map (t.toList ++ ·) else none
termination_by cs => cs.length

end Scan

/-- The tokens of a text. A quote or a comment that stays open is an error. -/
def tokens? (text : String) : Option (List Token) := Scan.tokens? text.toList

end QueryGate.Sql
