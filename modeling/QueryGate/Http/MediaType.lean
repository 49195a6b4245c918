set_option relaxedAutoImplicit false
set_option autoImplicit false

/-!
# Media types

A media type is a type and a subtype with a slash between them, perhaps followed by parameters. The
end of a subtype after its last plus sign names the format that the type is written in.

## Main definitions

* `QueryGate.Http.MediaType` — a media type without its parameters.
* `QueryGate.Http.MediaType.ofText?` — the media type that a header names.
* `QueryGate.Http.MediaType.isJson` — whether a media type stands for JSON.
-/

namespace QueryGate.Http

/-- A media type without its parameters. -/
structure MediaType where
  /-- The type, in lower case. -/
  main : String
  /-- The subtype before its last plus sign, in lower case. -/
  sub : String
  /-- The subtype after its last plus sign, in lower case. -/
  format : Option String
  deriving DecidableEq, Repr

namespace MediaType

/-- The characters of types, subtypes, and names and plain values of parameters. -/
def isTokenChar (c : Char) : Bool := c.isAlphanum || "!#$%&'*+-.^_`|~".toList.contains c

/-- The characters of values between quotes. -/
def isQuotedChar (c : Char) : Bool := decide (31 < c.toNat) && c.toNat != 127

/-- Where a reader of parameters is. -/
inductive Place
  /-- Before the name of a parameter. -/
  | start
  /-- Inside a name. -/
  | name
  /-- After the equals sign. -/
  | equals
  /-- Inside a plain value. -/
  | value
  /-- After an opening quote. -/
  | quote
  /-- Inside a value between quotes. -/
  | quoted
  /-- After a closing quote. -/
  | closed
  /-- Nowhere: the parameters are not well formed. -/
  | nowhere
  deriving DecidableEq, Repr

/-- Where a reader is after one more character. -/
def Place.next (c : Char) : Place → Place
  | start => if c = ' ' then start else if isTokenChar c then name else nowhere
  | name => if c = '=' then equals else if isTokenChar c then name else nowhere
  | equals => if c = '"' then quote else if isTokenChar c then value else nowhere
  | value => if c = ';' then start else if isTokenChar c then value else nowhere
  | quote => if isQuotedChar c then quoted else nowhere
  | quoted => if c = '"' then closed else if isQuotedChar c then quoted else nowhere
  | closed => if c = ';' then start else if c = ' ' then closed else nowhere
  | nowhere => nowhere

/-- Whether parameters may end at a place. -/
def Place.mayEnd : Place → Bool
  | start | equals | value | closed => true
  | _ => false

/-- Whether what follows the first semicolon is a list of parameters. -/
def areParameters (cs : List Char) : Bool :=
  (cs.foldl (fun place c => place.next c) Place.start).mayEnd

/-- A text in lower case. -/
def lowered (cs : List Char) : String := String.ofList (cs.map Char.toLower)

/-- The media type with a given type and subtype. A plus sign at the start of a subtype does not
set off a format. -/
def ofParts (main sub : List Char) : MediaType :=
  let format := (sub.reverse.takeWhile (· != '+')).reverse
  let before := sub.take (sub.length - format.length - 1)
  if before.isEmpty then ⟨lowered main, lowered sub, none⟩
  else ⟨lowered main, lowered before, some (lowered format)⟩

/-- The media type that a header names. -/
def ofText? (header : String) : Option MediaType :=
  let cs := header.toList
  let main := cs.takeWhile isTokenChar
  if main.isEmpty || !cs.all fun c => c.toNat < 127 then none
  else
    match cs.dropWhile isTokenChar with
    | '/' :: rest =>
      let sub := rest.takeWhile isTokenChar
      match rest.dropWhile isTokenChar with
      | [] => some (ofParts main sub)
      | ';' :: parameters =>
        if !sub.isEmpty && areParameters parameters then some (ofParts main sub) else none
      | _ => none
    | _ => none

/-- Whether a media type stands for JSON. -/
def isJson (t : MediaType) : Bool :=
  t.main == "application" && (t.sub == "json" || t.format == some "json")

end MediaType

end QueryGate.Http
