set_option relaxedAutoImplicit false
set_option autoImplicit false

/-!
# Geographic levels

Places belong to one of three levels, each with a column of its own.

## Main definitions

* `QueryGate.Level` — the levels.
* `QueryGate.Level.priority` — the levels from the most specific on.
* `QueryGate.Level.ofColumn?` — the level of a column.
-/

namespace QueryGate

/-- The levels of places. -/
inductive Level
  | country
  | admin1
  | city
  deriving DecidableEq, Repr

namespace Level

/-- The levels from the most specific on, the order in which a name is looked for. -/
def priority : List Level := [city, admin1, country]

/-- The column that holds the places of a level. -/
def column : Level → String
  | country => "country_name"
  | admin1 => "admin1_name"
  | city => "city_name"

/-- The level of a column, if it holds places. -/
def ofColumn? (name : String) : Option Level := priority.find? (·.column == name)

/-- The word for a level. -/
def text : Level → String
  | country => "country"
  | admin1 => "admin1"
  | city => "city"

/-- The words for levels. -/
def words : List (String × Level) :=
  [("country", country), ("admin1", admin1), ("city", city)]

end Level

end QueryGate
