import QueryGate.Json.Draft
import QueryGate.Json.Writer
import QueryGate.Text.Quoted
import QueryGate.Text.Split
import QueryGate.Word

set_option relaxedAutoImplicit false
set_option autoImplicit false

/-!
# Shapes of JSON values

Readers that take a draft of a JSON value for something more particular: a text, a bounded
integer, a list, one of several words, or a record with named fields. A draft is gone through in
the order written. What does not fit is a misfit, which says what was found and what was wanted.

A record is written as an object or as a list of its fields in order. Fields are taken in the
order met; a missing field takes its default, and the first one without a default is reported.

## Main definitions

* `QueryGate.Json.Misfit` — why a value does not have the shape wanted.
* `QueryGate.Json.Shape` — a reader of drafts.
* `QueryGate.Json.RecordField` — one field of a record.
* `QueryGate.Json.Shape.record` — the reader of a record from its fields.
-/

namespace QueryGate.Json

/-- Why a value does not have the shape wanted. -/
inductive Misfit
  /-- What is no value, or none when looked at. -/
  | broken
  /-- A value of another type. -/
  | wrongType (found : Draft) (wanted : String)
  /-- An integer outside the type wanted. -/
  | outOfRange (found : Int) (wanted : String)
  /-- A value where one of several words is wanted that is neither a text nor an object. -/
  | notAWord (found : Draft)
  /-- An object where one of several words is wanted, without exactly one member; and what is
  wrong with its first member, if anything is. -/
  | notOneMember (first : Option Misfit)
  /-- A word that is none of those wanted. -/
  | unknownWord (found : String) (known : List String)
  /-- A record without a field that has no default. -/
  | missingField (name : String)
  /-- A record with the same field twice. -/
  | repeatedField (name : String)
  /-- A record written as a list that ends before a field without a default. -/
  | tooShort (length : Nat) (record : String) (fields : Nat)
  /-- A record written as a list with items after its last field. -/
  | tooLong (length : Nat)
  /-- A value that is none of the alternatives of a type. -/
  | noAlternative (type : String)
  /-- A text that the type wanted refuses, with its reason. -/
  | refused (reason : String)

namespace Misfit

/-- What a draft is, in words. -/
def found : Draft → String
  | .null => "null"
  | .bool true => "boolean `true`"
  | .bool false => "boolean `false`"
  | .int n => "integer `" ++ String.ofList (intChars n) ++ "`"
  | .float x => "floating point `" ++ String.ofList (floatChars x) ++ "`"
  | .str s => "string " ++ Text.quoted s
  | .arr .. => "sequence"
  | .obj .. => "map"
  | .unfit | .broken => "no value"

/-- A word between backticks. -/
def ticked (word : String) : String := "`" ++ word ++ "`"

/-- The words wanted, in words. -/
def alternatives : List String → String
  | [a] => ticked a
  | [a, b] => ticked a ++ " or " ++ ticked b
  | words => "one of " ++ Text.joined ", " (words.map ticked)

/-- The wording for a value of another type. -/
def typeMessage (d : Draft) (wanted : String) : String :=
  "invalid type: " ++ found d ++ ", expected " ++ wanted

/-- The wording of a misfit. -/
def message : Misfit → String
  | broken => unread
  | wrongType d wanted => typeMessage d wanted
  | outOfRange n wanted => "invalid value: " ++ found (.int n) ++ ", expected " ++ wanted
  | notAWord d => typeMessage d "string or map"
  | notOneMember _ => "invalid value: map, expected map with a single key"
  | unknownWord word known =>
    "unknown variant " ++ ticked word ++ ", expected " ++ alternatives known
  | missingField name => "missing field " ++ ticked name
  | repeatedField name => "duplicate field " ++ ticked name
  | tooShort length record fields =>
    "invalid length " ++ toString length ++ ", expected struct " ++ record ++ " with " ++
      toString fields ++ (if fields = 1 then " element" else " elements")
  | tooLong length =>
    "invalid length " ++ toString length ++ ", expected fewer elements in array"
  | noAlternative type => "data did not match any variant of untagged enum " ++ type
  | refused reason => reason

/-- Whether a reader that goes through a text takes the misfit for text that cannot be read. It
looks for a word before it looks for any other value, and for the end of a list or an object where
the last thing wanted in it ends. -/
def isBreak : Misfit → Bool
  | broken | notAWord _ | tooLong _ | notOneMember none => true
  | notOneMember (some first) => first.isBreak
  | _ => false

end Misfit

/-- A reader of drafts. -/
abbrev Shape (α : Type) := Draft → Except Misfit α

/-- One field of a record `α`. -/
structure RecordField (α : Type) where
  /-- The name of the field. -/
  name : String
  /-- Whether a record may leave the field out. -/
  optional : Bool
  /-- The record after the field has taken a value. -/
  take : Draft → α → Except Misfit α

namespace Shape

/-- A value read by a reader of drafts. -/
def ofJson {α : Type} (shape : Shape α) (j : Json) : Except Misfit α := shape (.ofJson j)

/-- The misfit of a draft that is of another type than wanted, if it is a value at all. -/
def wrong (d : Draft) (misfit : Misfit) : Misfit :=
  match d with
  | .unfit | .broken => .broken
  | _ => misfit

/-- A text. -/
def text (wanted : String) : Shape String
  | .str s => .ok s
  | d => .error (wrong d (.wrongType d wanted))

/-- A text, as the value of a field. -/
def string : Shape String := text "a string"

/-- An integer between two bounds. -/
def integer (lo hi : Int) (wanted : String) : Shape Int
  | .int n => if lo ≤ n ∧ n ≤ hi then .ok n else .error (.outOfRange n wanted)
  | d => .error (wrong d (.wrongType d wanted))

/-- A natural number below `2 ^ 64`. -/
def natural : Shape Nat := fun d => (integer 0 Word.maxUnsigned "u64" d).map Int.toNat

/-- An integer from `-2 ^ 63` to below `2 ^ 63`. -/
def signed : Shape Int := integer Word.minSigned Word.maxSigned "i64"

/-- A value that may be null. -/
def nullable {α : Type} (shape : Shape α) : Shape (Option α)
  | .null => .ok none
  | d => (shape d).map some

/-- What was read of a list or an object, provided that it is closed. -/
def ifClosed {α : Type} (closed : Bool) (a : α) : Except Misfit α :=
  if closed then .ok a else .error .broken

/-- A list of values of one shape; the first misfit decides. -/
def list {α : Type} (shape : Shape α) : Shape (List α)
  | .arr items closed => do ifClosed closed (← items.mapM shape)
  | d => .error (wrong d (.wrongType d "a sequence"))

/-- Any value, with repeated keys merged at every depth. -/
def any : Shape Json := fun d =>
  match d.toJson? with
  | some j => .ok j.merged
  | none => .error .broken

/-- The members of an object, with repeated keys merged at every depth. -/
def object : Shape Members
  | .obj members closed => do
    match ← any (.obj members closed) with
    | .obj members => .ok members
    | _ => .ok []
  | d => .error (wrong d (.wrongType d "a map"))

/-- The null value, as the value of a word. -/
def unit : Shape Unit
  | .null => .ok ()
  | d => .error (wrong d (.wrongType d "unit"))

/-- The meaning of a word among several. -/
def meaning {α : Type} (words : List (String × α)) (s : String) : Except Misfit α :=
  match words.lookup s with
  | some a => .ok a
  | none => .error (.unknownWord s (words.map (·.1)))

/-- The meaning of a word that is written as the key of a member. -/
def memberMeaning {α : Type} (words : List (String × α)) :
    Option String × Draft → Except Misfit α
  | (some s, d) => do
    let a ← meaning words s
    unit d
    return a
  | (none, _) => .error .broken

/-- The misfit of a result that is one. -/
def misfit? {α : Type} : Except Misfit α → Option Misfit
  | .ok _ => none
  | .error misfit => some misfit

/-- One of several words, each with its meaning. A word may also be written as the key of an object
whose one value is null. -/
def word {α : Type} (words : List (String × α)) : Shape α
  | .str s => meaning words s
  | .obj [member] closed => do ifClosed closed (← memberMeaning words member)
  | .obj [] closed => .error (if closed then .notOneMember none else .broken)
  | .obj (member :: _) _ => .error (.notOneMember (misfit? (memberMeaning words member)))
  | d => .error (wrong d (.notAWord d))

/-- A field that has to be there. -/
def required {α β : Type} (name : String) (shape : Shape β) (set : β → α → α) : RecordField α :=
  ⟨name, false, fun d a => (shape d).map (set · a)⟩

/-- A field with a default. -/
def withDefault {α β : Type} (name : String) (shape : Shape β) (set : β → α → α) :
    RecordField α :=
  ⟨name, true, fun d a => (shape d).map (set · a)⟩

/-- The record after taking members in the order met; `seen` are the fields taken before. -/
def takeMembers {α : Type} (fields : List (RecordField α)) (seen : List String) :
    List (Option String × Draft) → α → Except Misfit (List String × α)
  | [], a => .ok (seen, a)
  | (none, _) :: _, _ => .error .broken
  | (some key, d) :: rest, a =>
    match fields.find? (·.name == key) with
    | none => if d.isWhole then takeMembers fields seen rest a else .error .broken
    | some field =>
      if seen.contains key then .error (.repeatedField key)
      else
        match field.take d a with
        | .ok a => takeMembers fields (key :: seen) rest a
        | .error misfit => .error misfit

/-- The record after taking the items of a list for the fields in order. -/
def takeItems {α : Type} (record : String) (total : Nat) (closed : Bool) :
    Nat → List (RecordField α) → List Draft → α → Except Misfit α
  | _, [], [], a => ifClosed closed a
  | i, [], extra, _ => .error (.tooLong (i + extra.length))
  | i, field :: fields, [], a =>
    if !closed then .error .broken
    else if field.optional then takeItems record total closed (i + 1) fields [] a
    else .error (.tooShort i record total)
  | i, field :: fields, d :: rest, a =>
    match field.take d a with
    | .ok a => takeItems record total closed (i + 1) fields rest a
    | .error misfit => .error misfit

/-- The reader of a record named `name`. `blank` holds the defaults. -/
def record {α : Type} (name : String) (blank : α) (fields : List (RecordField α)) : Shape α
  | .obj members closed => do
    let (seen, a) ← takeMembers fields [] members blank
    let a ← ifClosed closed a
    match fields.find? fun field => !field.optional && !seen.contains field.name with
    | some field => .error (.missingField field.name)
    | none => .ok a
  | .arr items closed => takeItems name fields.length closed 0 fields items blank
  | d => .error (wrong d (.wrongType d ("struct " ++ name)))

end Shape

end QueryGate.Json
