import QueryGate.Engine.Fault
import QueryGate.Failure
import QueryGate.Text.Blank
import QueryGate.Text.Case

set_option relaxedAutoImplicit false
set_option autoImplicit false

/-!
# Diagnosis of engine faults

The engine's messages are read for what is behind them: a name that is not there, a column neither
aggregated nor grouped, a value of the wrong type. Those are defects of the request and say nothing
about the engine's health; everything else does.

## Main definitions

* `QueryGate.Diagnosis` — what is behind a fault.
* `QueryGate.EngineFault.diagnose` — the diagnosis of a fault.
* `QueryGate.Diagnosis.isRequestDefect` — whether the request is to blame.
* `QueryGate.EngineFault.failure` — a fault as the caller is told.
-/

namespace QueryGate

/-- What is behind a fault of the engine. -/
inductive Diagnosis
  /-- A column is not there; the candidates are. -/
  | columnNotFound (column : String) (candidates : List String)
  /-- A table is not there; the candidates are. -/
  | tableNotFound (table : String) (candidates : List String)
  /-- A column is neither aggregated nor grouped. -/
  | invalidAggregation
  /-- A value does not have the type of its column. -/
  | typeMismatch
  /-- A deadline has passed. -/
  | timeout
  /-- No connection became free. -/
  | poolExhausted
  /-- A connection could not be made. -/
  | connection
  /-- Anything else. -/
  | execution
  deriving DecidableEq, Repr

namespace Diagnosis

/-- The name of a diagnosis. -/
def name : Diagnosis → String
  | columnNotFound .. => "ColumnNotFound"
  | tableNotFound .. => "TableNotFound"
  | invalidAggregation => "InvalidAggregation"
  | typeMismatch => "TypeMismatch"
  | timeout => "Timeout"
  | poolExhausted => "PoolExhausted"
  | connection => "Connection"
  | execution => "Execution"

/-- A diagnosis as one text. -/
def display : Diagnosis → String
  | columnNotFound column c => (columnNotFound column c).name ++ "(" ++ column ++ ")"
  | tableNotFound table c => (tableNotFound table c).name ++ "(" ++ table ++ ")"
  | other => other.name

/-- Whether the request is to blame, so that the fault says nothing about the engine's health. -/
def isRequestDefect : Diagnosis → Bool
  | columnNotFound .. | tableNotFound .. | invalidAggregation | typeMismatch => true
  | _ => false

/-- Whether the fault says that the engine is not well. -/
def countsAsFailure (d : Diagnosis) : Bool := !d.isRequestDefect

end Diagnosis

/-! ## Reading messages -/

namespace Message

/-- The first result of a reader among the places of a text, from the front. -/
def firstAt {α : Type} (reader : List Char → Option α) : List Char → Option α
  | [] => reader []
  | c :: cs =>
    match reader (c :: cs) with
    | some a => some a
    | none => firstAt reader cs

/-- What follows a marker at the start of a text, letter case apart. -/
def after (marker : String) (cs : List Char) : Option (List Char) :=
  Text.afterMarker marker.toList cs

/-- Whether a marker stands somewhere in a text, letter case apart. -/
def mentions (marker : String) (cs : List Char) : Bool := (firstAt (after marker) cs).isSome

/-- A text without a quote at its start, if it has one. -/
def skipQuote : List Char → List Char
  | '"' :: cs => cs
  | cs => cs

/-- The name after `opening`, quoted or not, when one of the `closings` follows. A name holds
neither blanks nor quotes nor the characters that `stops` names. -/
def nameBetween (opening : String) (stops : Char → Bool) (closings : List String)
    (cs : List Char) : Option String := do
  let rest := skipQuote (← after opening cs)
  let isName := fun c => !(c == '"' || Text.isBlank c || stops c)
  let name := rest.takeWhile isName
  let rest := skipQuote (rest.dropWhile isName)
  if !name.isEmpty && closings.any (fun closing => (after closing rest).isSome) then
    some (String.ofList name)
  else none

/-- The column that a message says is missing. -/
def missingColumn? (cs : List Char) : Option String :=
  firstAt (nameBetween "column " (fun _ => false) [" not found", " does not exist"]) cs

/-- The table that a message says is missing. -/
def missingTable? (cs : List Char) : Option String :=
  firstAt (nameBetween "table with name " (· == '!') [" does not exist"]) cs

/-- The texts between quotes, none of them empty. `since` holds the characters since the quote
that is open, backwards. -/
def quotedTexts (since : Option (List Char)) : List Char → List String
  | [] => []
  | c :: cs =>
    if c = '"' then
      match since with
      | none => quotedTexts (some []) cs
      | some [] => quotedTexts (some []) cs
      | some run => String.ofList run.reverse :: quotedTexts none cs
    else quotedTexts (since.map (c :: ·)) cs

/-- The rest of the line after `Candidate bindings:` and white space. -/
def bindingsLine? (cs : List Char) : Option (List Char) := do
  let rest ← after "candidate bindings:" cs
  let blanks := rest.takeWhile Text.isBlank
  match rest.dropWhile Text.isBlank with
  | [] => if blanks.any (· != '\n') then some [] else none
  | line => some (line.takeWhile (· != '\n'))

/-- The text between brackets after `Candidates:` and white space. -/
def candidateList? (cs : List Char) : Option (List Char) := do
  match (← after "candidates:" cs).dropWhile Text.isBlank with
  | '[' :: rest => if rest.contains ']' then some (rest.takeWhile (· != ']')) else none
  | _ => none

/-- The texts between quotes after each `Did you mean`. The length of the text bounds the
search. -/
def meant : Nat → List Char → List String
  | 0, _ => []
  | _ + 1, [] => []
  | fuel + 1, c :: cs =>
    match after "did you mean \"" (c :: cs) with
    | some rest =>
      let name := rest.takeWhile (· != '"')
      if name.isEmpty || name.length = rest.length then meant fuel cs
      else String.ofList name :: meant fuel (rest.drop (name.length + 1))
    | none => meant fuel cs

/-- A text without quotes of either kind at its two ends. -/
def withoutQuotes (cs : List Char) : List Char :=
  let isQuote := fun c => c == '"' || c == '\''
  ((cs.dropWhile isQuote).reverse.dropWhile isQuote).reverse

/-- The part of a name after its last dot. -/
def bareName (name : String) : String :=
  String.ofList (name.toList.reverse.takeWhile (· != '.')).reverse

/-- The names that a message offers instead, each once and without the table they belong to. -/
def candidates (message : String) : List String :=
  let cs := message.toList
  let raw :=
    match firstAt bindingsLine? cs, firstAt candidateList? cs with
    | some line, _ => quotedTexts none line
    | none, some list =>
      ((Text.fieldsOf ',' list).map fun part =>
        String.ofList (withoutQuotes (Text.trimChars part))).filter (!·.isEmpty)
    | none, none => meant (cs.length + 1) cs
  (raw.map bareName).eraseDups

end Message

namespace EngineFault

open Message

/-- The diagnosis of the engine's own message. -/
def diagnoseMessage (message : String) : Diagnosis :=
  let cs := message.toList
  match missingColumn? cs, missingTable? cs with
  | some column, _ => .columnNotFound column (candidates message)
  | none, some table => .tableNotFound table (candidates message)
  | none, none =>
    if mentions "must appear in the group by clause" cs ||
        mentions "must be part of an aggregate function" cs then .invalidAggregation
    else if mentions "conversion error" cs || mentions "could not convert" cs then .typeMismatch
    else .execution

/-- The diagnosis of a fault. -/
def diagnose : EngineFault → Diagnosis
  | timeout _ => .timeout
  | poolExhausted _ => .poolExhausted
  | connection _ => .connection
  | engine message => diagnoseMessage message

/-- Whether a fault says that the engine is not well. -/
def trips (f : EngineFault) : Bool := f.diagnose.countsAsFailure

/-- A fault as the caller is told. -/
def failure (f : EngineFault) : Failure :=
  match f, f.diagnose with
  | _, .columnNotFound column candidates =>
    .notFound ("Column '" ++ column ++ "' not found") candidates
  | _, .tableNotFound table candidates =>
    .notFound ("Table '" ++ table ++ "' not found") candidates
  | _, .invalidAggregation =>
    .validation (Text.firstLine f.display)
      (some "Every selected column must be in group_by or carry an aggregation") []
  | _, .typeMismatch =>
    .validation (Text.firstLine f.display)
      (some "A filter value does not match the column type") []
  | _, .timeout => .timeout f.display
  | poolExhausted waited, _ =>
    let seconds := Span.seconds waited
    .unavailable f.display (if seconds < 1.0 then 1.0 else seconds)
  | _, _ => .execution f.display

end EngineFault

end QueryGate
