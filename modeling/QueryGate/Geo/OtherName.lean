import QueryGate.Geo.Level
import QueryGate.Text.Blank
import QueryGate.Text.Case

set_option relaxedAutoImplicit false
set_option autoImplicit false

/-!
# Other names of places

Abbreviations and other spellings of the names of places, each with the name it stands for and the
level it implies.

## Main definitions

* `QueryGate.otherNames` — the table.
* `QueryGate.standsFor?` — the name that another name stands for.
-/

namespace QueryGate

/-- Other names in lower case, the names they stand for, and the levels they imply. -/
def otherNames : List (String × String × Level) := [
  ("usa", "United States", .country),
  ("us", "United States", .country),
  ("u.s.", "United States", .country),
  ("u.s.a.", "United States", .country),
  ("america", "United States", .country),
  ("united states of america", "United States", .country),
  ("uk", "United Kingdom", .country),
  ("u.k.", "United Kingdom", .country),
  ("gbr", "United Kingdom", .country),
  ("great britain", "United Kingdom", .country),
  ("britain", "United Kingdom", .country),
  ("uae", "United Arab Emirates", .country),
  ("drc", "Democratic Republic of the Congo", .country),
  ("dr congo", "Democratic Republic of the Congo", .country),
  ("south korea", "Korea, Republic of", .country),
  ("korea", "Korea, Republic of", .country),
  ("russia", "Russian Federation", .country),
  ("iran", "Iran, Islamic Republic of", .country),
  ("vietnam", "Viet Nam", .country),
  ("deu", "Germany", .country),
  ("fra", "France", .country),
  ("chn", "China", .country),
  ("prc", "China", .country),
  ("ind", "India", .country),
  ("jpn", "Japan", .country),
  ("bra", "Brazil", .country),
  ("can", "Canada", .country),
  ("aus", "Australia", .country),
  ("rus", "Russian Federation", .country),
  ("mex", "Mexico", .country),
  ("idn", "Indonesia", .country),
  ("zaf", "South Africa", .country),
  ("kor", "Korea, Republic of", .country),
  ("ca", "California", .admin1),
  ("calif", "California", .admin1),
  ("tx", "Texas", .admin1),
  ("ny", "New York", .admin1),
  ("fl", "Florida", .admin1),
  ("wa", "Washington", .admin1),
  ("il", "Illinois", .admin1),
  ("pa", "Pennsylvania", .admin1),
  ("oh", "Ohio", .admin1),
  ("ga", "Georgia", .admin1),
  ("nc", "North Carolina", .admin1),
  ("mi", "Michigan", .admin1),
  ("nj", "New Jersey", .admin1),
  ("va", "Virginia", .admin1),
  ("az", "Arizona", .admin1),
  ("ma", "Massachusetts", .admin1),
  ("nyc", "New York City", .city),
  ("new york city", "New York City", .city),
  ("la", "Los Angeles", .city),
  ("sf", "San Francisco", .city),
  ("dc", "Washington", .city),
  ("washington dc", "Washington", .city),
  ("washington d.c.", "Washington", .city)]

/-- The name that another name stands for and the level it implies, white space around it and
letter case apart. -/
def standsFor? (name : String) : Option (String × Level) :=
  otherNames.lookup (Text.lower (Text.trim name))

end QueryGate
