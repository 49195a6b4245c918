import QueryGate.Sql.Token

set_option relaxedAutoImplicit false
set_option autoImplicit false

/-!
# Rules of a grammar

A grammar gives a rule for each of its parts. A rule says how the tokens of a text may go on; which
way it goes is decided by the tokens ahead and, once decided, holds.

## Main definitions

* `QueryGate.Sql.Kind` — what a rule asks of one token.
* `QueryGate.Sql.Rule` — how tokens may go on.
* `QueryGate.Sql.Grammar` — a rule for each part of a language.
* `QueryGate.Sql.Grammar.rest?` — what follows the tokens that a part takes.
-/

namespace QueryGate.Sql

/-- What a rule asks of one token. -/
inductive Kind
  /-- A bare word, in upper case. -/
  | word (text : String)
  /-- A bare word written in upper case. -/
  | capital (text : String)
  /-- One of some bare words. -/
  | anyWord (texts : List String)
  /-- A sign. -/
  | sign (text : String)
  /-- One of some signs. -/
  | anySign (texts : List String)
  /-- A bare word or a quoted name. -/
  | ident
  /-- A bare word or a quoted name that begins with an underscore. -/
  | charset
  /-- A bare word, a quoted name or a text. -/
  | name
  /-- A bare word other than some, a quoted name or a text. -/
  | nameBut (reserved : List String)
  /-- A name of one byte. -/
  | letter
  /-- A text. -/
  | text
  /-- A text written in one of some ways. -/
  | written (ways : List Writing)
  /-- A name between double quotes. -/
  | doubleQuoted
  /-- A number. -/
  | number
  /-- A whole number of 64 bits. -/
  | size
  /-- A bare word, a quoted name or a number that is not marked as long. -/
  | slot
  /-- The place of a literal. -/
  | place
  /-- A number, a text that is not escaped, or a place. -/
  | literal
  /-- A number, a text, a place, a truth value, `NULL` or a name between double quotes. -/
  | constant
  /-- Any token. -/
  | any
  deriving DecidableEq, Repr

/-- Whether a token is of a kind. -/
def Kind.accepts : Kind → Token → Bool
  | word w, .word t _ => t = w
  | capital w, .word t isCapital => t = w && isCapital
  | anyWord ws, .word t _ => ws.contains t
  | sign s, .sign t => t = s
  | anySign ss, .sign t => ss.contains t
  | ident, .word _ _ | ident, .quoted _ _ => true
  | charset, .word t _ | charset, .quoted _ t => t.startsWith "_"
  | name, .word _ _ | name, .quoted _ _ | name, .text _ => true
  | nameBut reserved, .word t _ => !reserved.contains t
  | nameBut _, .quoted _ _ | nameBut _, .text _ => true
  | letter, .word t _ | letter, .quoted _ t | letter, .text t => t.utf8ByteSize = 1
  | text, .text _ => true
  | written ways, .written way => ways.contains way
  | doubleQuoted, .quoted mark _ => mark = '"'
  | number, .number _ _ => true
  | size, .number t _ => t.toNat?.any (· < 18446744073709551616)
  | slot, .word _ _ | slot, .quoted _ _ => true
  | slot, .number _ long => !long
  | place, .place => true
  | literal, .number _ _ | literal, .text _ | literal, .place => true
  | literal, .written way => way ≠ .escaped
  | constant, .number _ _ | constant, .text _ | constant, .place | constant, .written _ => true
  | constant, .word t _ => ["TRUE", "FALSE", "NULL"].contains t
  | constant, .quoted mark _ => mark = '"'
  | any, _ => true
  | _, _ => false

/-- What follows tokens of some kinds, if the tokens begin with such. -/
def Kind.after? : List Kind → List Token → Option (List Token)
  | [], ts => some ts
  | k :: ks, t :: ts => if k.accepts t then after? ks ts else none
  | _ :: _, [] => none

/-- How tokens may go on, in a language of some parts. -/
inductive Rule (Part : Type)
  /-- Nothing comes here. -/
  | done
  /-- One token of a kind. -/
  | one (k : Kind)
  /-- One thing after another. -/
  | seq (first second : Rule Part)
  /-- One thing or more, with commas between. -/
  | list (item : Rule Part)
  /-- Where tokens of some kinds come next, they are taken and `yes` follows, and `no` elsewhere. -/
  | on (ahead : List Kind) (yes no : Rule Part)
  /-- Where tokens of some kinds come next, `yes`, and `no` elsewhere. -/
  | look (ahead : List Kind) (yes no : Rule Part)
  /-- Where `first` holds, what it takes and then `yes`, and `no` elsewhere. -/
  | attempt (first yes no : Rule Part)
  /-- A part of the language. -/
  | part (p : Part)

namespace Rule

variable {Part : Type}

instance : Append (Rule Part) := ⟨seq⟩

/-- Something that holds nowhere. -/
def never : Rule Part := one (.anyWord [])

/-- A bare word. -/
def keyword (text : String) : Rule Part := one (.word text)

/-- One of some bare words. -/
def anyKeyword (texts : List String) : Rule Part := one (.anyWord texts)

/-- A sign. -/
def sign (text : String) : Rule Part := one (.sign text)

/-- A name. -/
def name : Rule Part := one .name

/-- Something that comes only after tokens of some kinds. -/
def maybe (ahead : List Kind) (body : Rule Part) : Rule Part := on ahead body done

/-- Something between parentheses. -/
def parens (body : Rule Part) : Rule Part := sign "(" ++ body ++ sign ")"

/-- The first way whose tokens come next. -/
def first (ways : List (List Kind × Rule Part)) (otherwise : Rule Part) : Rule Part :=
  ways.foldr (fun (ahead, yes) no => on ahead yes no) otherwise

end Rule

/-- A rule for each part of a language. -/
structure Grammar (Part : Type) where
  /-- The rule of a part. -/
  rule : Part → Rule Part
  /-- Whether a part counts for the limit on nesting. -/
  nests : Part → Bool

namespace Grammar

variable {Part : Type}

/-- What follows the tokens that a rule takes. Parts that count may stand `depth` deep inside each
other, and rules `fuel` deep. -/
def rest? (g : Grammar Part) : Nat → Nat → Rule Part → List Token → Option (List Token)
  | 0, _, _, _ => none
  | fuel + 1, depth, r, ts =>
    match r with
    | .done => some ts
    | .one k => Kind.after? [k] ts
    | .seq first second => (g.rest? fuel depth first ts).bind (g.rest? fuel depth second)
    | .list item =>
      (g.rest? fuel depth item ts).bind fun rest =>
        match Kind.after? [.sign ","] rest with
        | some more => g.rest? fuel depth (.list item) more
        | none => some rest
    | .on ahead yes no =>
      match Kind.after? ahead ts with
      | some rest => g.rest? fuel depth yes rest
      | none => g.rest? fuel depth no ts
    | .look ahead yes no =>
      if (Kind.after? ahead ts).isSome then g.rest? fuel depth yes ts
      else g.rest? fuel depth no ts
    | .attempt first yes no =>
      match g.rest? fuel depth first ts with
      | some rest => g.rest? fuel depth yes rest
      | none => g.rest? fuel depth no ts
    | .part p =>
      if g.nests p then
        match depth with
        | 0 => none
        | depth + 1 => g.rest? fuel depth (g.rule p) ts
      else g.rest? fuel depth (g.rule p) ts

end Grammar

end QueryGate.Sql
