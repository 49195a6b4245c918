import QueryGate.Calendar.Instant
import QueryGate.Filter.Basic
import QueryGate.Json.Basic
import QueryGate.Text.Quoted
import QueryGate.Word

set_option relaxedAutoImplicit false
set_option autoImplicit false

/-!
# Cells

The values that the engine knows, and each of them as a JSON value. Dates and times become texts,
lists become lists, and a value that has no JSON form of its own becomes a description of itself.

## Main definitions

* `QueryGate.Cell` — a value of the engine.
* `QueryGate.Cell.describe` — a value in words.
* `QueryGate.Cell.toJson` — a value as JSON.
* `QueryGate.Literal.cell` — a literal as the engine is handed it.
-/

namespace QueryGate

/-- The engine's types of integers. -/
inductive IntegerType
  | tiny
  | small
  | int
  | big
  | huge
  | unsignedTiny
  | unsignedSmall
  | unsigned
  | unsignedBig
  | unsignedHuge
  deriving DecidableEq, Repr

/-- The name of a type of integers. -/
def IntegerType.name : IntegerType → String
  | tiny => "TinyInt"
  | small => "SmallInt"
  | int => "Int"
  | big => "BigInt"
  | huge => "HugeInt"
  | unsignedTiny => "UTinyInt"
  | unsignedSmall => "USmallInt"
  | unsigned => "UInt"
  | unsignedBig => "UBigInt"
  | unsignedHuge => "UHugeInt"

/-- The name of a unit of time. -/
def TimeUnit.name : TimeUnit → String
  | second => "Second"
  | millisecond => "Millisecond"
  | microsecond => "Microsecond"
  | nanosecond => "Nanosecond"

/-- A value of the engine. -/
inductive Cell
  /-- No value. -/
  | null
  /-- A truth value. -/
  | bool (b : Bool)
  /-- An integer of some type. -/
  | integer (type : IntegerType) (n : Int)
  /-- A floating number of single precision; the double is rounded to it. -/
  | single (x : Float)
  /-- A floating number. -/
  | double (x : Float)
  /-- A decimal: an integer over a power of ten. -/
  | decimal (n : Int) (places : Nat)
  /-- A time counted from the start of 1970. -/
  | timestamp (unit : TimeUnit) (count : Int)
  /-- A time counted from midnight. -/
  | time (unit : TimeUnit) (count : Int)
  /-- A day counted from the start of 1970. -/
  | date (count : Int)
  /-- A length of time in three parts. -/
  | interval (months days nanos : Int)
  /-- A text. -/
  | text (s : String)
  /-- A word of an enumeration. -/
  | word (s : String)
  /-- Bytes. -/
  | blob (bytes : List Nat)
  /-- A list of any length. -/
  | list (items : List Cell)
  /-- A list of a fixed length. -/
  | array (items : List Cell)
  /-- Named values. -/
  | struct (fields : List (String × Cell))
  /-- Pairs of keys and values. -/
  | map (entries : List (Cell × Cell))
  /-- A value of one of several types. -/
  | union (value : Cell)
  deriving Inhabited

namespace Cell

/-- Floating numbers in a description have the fewest digits that identify them, positionally from
`1e-4` to below `1e16`. -/
def number : Decimal.Notation where
  positional e := decide (-4 ≤ e) && decide (e ≤ 15)
  keepsPoint := true
  plusSign := false

/-- A decimal without an exponent. -/
def decimalText (n : Int) (places : Nat) : String :=
  let digits := Text.decimal n.natAbs
  let digits := List.replicate (places + 1 - digits.length) '0' ++ digits
  let whole := digits.take (digits.length - places)
  let fraction := digits.drop (digits.length - places)
  String.ofList <| Decimal.signOf (n < 0) ++ whole ++
    (if fraction.isEmpty then [] else '.' :: fraction)

/-- A call-like text: a name with something in parentheses. -/
def called (name inside : String) : String := name ++ "(" ++ inside ++ ")"

/-- Texts between brackets with commas between them. -/
def bracketed (parts : List String) : String := "[" ++ Text.joined ", " parts ++ "]"

/-- A pair of texts between parentheses. -/
def paired (a b : String) : String := "(" ++ a ++ ", " ++ b ++ ")"

mutual

/-- A value in words. -/
def describe : Cell → String
  | .null => "Null"
  | .bool b => called "Boolean" (toString b)
  | .integer type n => called type.name (toString n)
  | .single x =>
    called "Float" (String.ofList (number.writeReading (Decimal.readSingle (Decimal.toSingle x))))
  | .double x => called "Double" (String.ofList (number.writeReading (Decimal.read x)))
  | .decimal n places => called "Decimal" (decimalText n places)
  | .timestamp unit count => called "Timestamp" (unit.name ++ ", " ++ toString count)
  | .time unit count => called "Time64" (unit.name ++ ", " ++ toString count)
  | .date count => called "Date32" (toString count)
  | .interval months days nanos =>
    "Interval \x7b months: " ++ toString months ++ ", days: " ++ toString days ++ ", nanos: " ++
      toString nanos ++ " \x7d"
  | .text s => called "Text" (Text.quoted s)
  | .word s => called "Enum" (Text.quoted s)
  | .blob bytes => called "Blob" (bracketed (bytes.map toString))
  | .list items => called "List" (bracketed (describeItems items))
  | .array items => called "Array" (bracketed (describeItems items))
  | .struct fields => called "Struct" (called "OrderedMap" (bracketed (describeFields fields)))
  | .map entries => called "Map" (called "OrderedMap" (bracketed (describeEntries entries)))
  | .union value => called "Union" (describe value)

/-- The items of a list in words. -/
def describeItems : List Cell → List String
  | [] => []
  | c :: rest => describe c :: describeItems rest

/-- Named values in words. -/
def describeFields : List (String × Cell) → List String
  | [] => []
  | (name, c) :: rest => paired (Text.quoted name) (describe c) :: describeFields rest

/-- Pairs of keys and values in words. -/
def describeEntries : List (Cell × Cell) → List String
  | [] => []
  | (key, c) :: rest => paired (describe key) (describe c) :: describeEntries rest

end

/-- The double nearest to a decimal. -/
def decimalFloat (n : Int) (places : Nat) : Float :=
  Decimal.withSign (n < 0) (Decimal.ofDecimal n.natAbs (-(places : Int)))

/-- An integer as JSON. Those beyond 64 bits become floating numbers. -/
def integerJson (n : Int) : Json :=
  if Word.isSigned n then .int n else .ofFloat (Decimal.ofInt n)

mutual

/-- A value as JSON. -/
def toJson : Cell → Json
  | .null => .null
  | .bool b => .bool b
  | .integer .huge n => integerJson n
  | .integer .unsignedHuge n => .str (describe (.integer .unsignedHuge n))
  | .integer _ n => .int n
  | .single x => .ofFloat (Decimal.toSingle x)
  | .double x => .ofFloat x
  | .decimal n places => .ofFloat (decimalFloat n places)
  | .timestamp unit count => .ofText? (instantText? unit count)
  | .time unit count => .ofText? (clockText? unit count)
  | .date count => .ofText? (dateText? count)
  | .interval months days nanos =>
    .obj [("months", .int months), ("days", .int days), ("nanos", .int nanos)]
  | .text s => .str s
  | .word s => .str s
  | .list items => .arr (itemsJson items)
  | .array items => .arr (itemsJson items)
  | other => .str (describe other)

/-- The items of a list as JSON. -/
def itemsJson : List Cell → List Json
  | [] => []
  | c :: rest => toJson c :: itemsJson rest

end

end Cell

/-- A literal as the engine is handed it. -/
def Literal.cell : Literal → Cell
  | text s => .text s
  | integer n => .integer .big n
  | float x => .double x
  | bool b => .bool b

end QueryGate
