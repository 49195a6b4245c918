import QueryGate.Filter.Basic
import QueryGate.Geo.OtherName
import QueryGate.Geo.Coverage
import QueryGate.Geo.Scorer
import QueryGate.Json.Basic

set_option relaxedAutoImplicit false
set_option autoImplicit false

/-!
# Resolving names of places

A name is taken for the place it means: through the table of other names, then by looking it up in
the coverage. Where neither helps, the names most like it are suggested and the name stays as it
is. Other names give way to a stored name spelled the same, unless the place they stand for is
stored as well.

## Main definitions

* `QueryGate.Resolution` — what a name was taken for, and how.
* `QueryGate.Resolver` — a scorer with the least score of a suggestion.
* `QueryGate.Resolver.resolve` — the resolution of a name.
* `QueryGate.Resolver.substitute` — filters with the names of places resolved.
-/

namespace QueryGate

/-- How a name was resolved. -/
inductive MatchKind
  | otherName
  | exact
  | fuzzy
  | none
  deriving DecidableEq, Repr

/-- The word for a way of resolving. -/
def MatchKind.text : MatchKind → String
  | otherName => "alias"
  | exact => "exact"
  | fuzzy => "fuzzy"
  | none => "none"

/-- A stored name like the one asked for. -/
structure Suggestion where
  /-- The name. -/
  name : String
  /-- Its level. -/
  level : Level
  /-- How alike the two are. -/
  score : Float

/-- What a name was taken for, and how. -/
structure Resolution where
  /-- The name asked for. -/
  input : String
  /-- The name it was taken for. -/
  canonical : String
  /-- The level. -/
  level : Level
  /-- How the name was resolved. -/
  matched : MatchKind
  /-- Stored names like the one asked for, the most alike first. -/
  suggestions : List Suggestion

/-- Whether the name may be replaced. -/
def Resolution.isConfident (r : Resolution) : Bool :=
  match r.matched with
  | .otherName | .exact => true
  | _ => false

/-- A suggestion as JSON. -/
def Suggestion.toJson (s : Suggestion) : Json :=
  .obj [("name", .str s.name), ("level", .str s.level.text), ("score", .ofFloat s.score)]

/-- A resolution as JSON. -/
def Resolution.toJson (r : Resolution) : Json := .obj [
  ("input", .str r.input), ("canonical", .str r.canonical), ("level", .str r.level.text),
  ("match", .str r.matched.text), ("suggestions", .arr (r.suggestions.map Suggestion.toJson))]

/-- A scorer with the least score of a suggestion. -/
structure Resolver where
  /-- The scorer. -/
  scorer : Scorer := Scorer.heuristic
  /-- The least score of a suggestion. -/
  threshold : Float := 0.75

/-- The most suggestions. -/
def maxSuggestions : Nat := 5

/-- The order of suggestions: the most alike first, and names in order where the scores tie. -/
def Suggestion.precedes (a b : Suggestion) : Bool :=
  if b.score < a.score then true
  else if a.score < b.score then false
  else decide (a.name ≤ b.name)

/-- The stored name that a name means, at one level or at the most specific one that has it. -/
def Coverage.find (c : Coverage) (name : String) : Option Level → Option (String × Level)
  | some level => (c.lookup level name).map (·, level)
  | none => Level.priority.findSome? fun level => (c.lookup level name).map (·, level)

namespace Resolver

/-- The stored names of some levels that are most like a name. -/
def suggest (r : Resolver) (c : Coverage) (name : String) (levels : List Level) :
    List Suggestion :=
  let scored := levels.flatMap fun level =>
    (c.names level).map fun n => ⟨n, level, r.scorer name n⟩
  ((scored.filter fun s => r.threshold ≤ s.score).mergeSort Suggestion.precedes).take maxSuggestions

/-- The suggestions at the level asked for, or at all levels where there are none. -/
def suggestAt (r : Resolver) (c : Coverage) (name : String) (level : Option Level) :
    List Suggestion :=
  let near := match level with
    | some l => r.suggest c name [l]
    | none => []
  if near.isEmpty then r.suggest c name Level.priority else near

/-- The name that a trimmed name stands for, with the level implied. Another name that implies a
level other than the one asked for is passed over. -/
def candidate (input : String) (level : Option Level) : String × Option Level :=
  match standsFor? input with
  | some (canonical, implied) =>
    if level.isNone || level = some implied then (canonical, some implied) else (input, none)
  | none => (input, none)

/-- The resolution of a name, at one level or at any. -/
def resolve (r : Resolver) (c : Coverage) (name : String) (level : Option Level) : Resolution :=
  let input := Text.trim name
  let (candidate, implied) := candidate input level
  let aliased := candidate != input
  let search := level.or implied
  match c.find candidate search with
  | some (found, l) => ⟨name, found, l, if aliased then .otherName else .exact, []⟩
  | none =>
    if aliased then
      match c.find input search with
      | some (found, l) => ⟨name, found, l, .exact, []⟩
      | none => ⟨name, candidate, search.getD .country, .otherName, []⟩
    else
      let suggestions := r.suggestAt c candidate level
      ⟨name, name, level.getD .country, if suggestions.isEmpty then .none else .fuzzy,
        suggestions⟩

/-- The name that a text in a filter on places is replaced by. -/
def replacement (r : Resolver) (c : Coverage) (level : Level) (text : String) : String :=
  let resolution := r.resolve c text (some level)
  if resolution.isConfident then resolution.canonical else text

/-- A filter with the names of places in it resolved. -/
def substituteFilter (r : Resolver) (c : Coverage) (f : ColumnFilter) : ColumnFilter :=
  match Level.ofColumn? f.column.text with
  | some level => f.mapTexts (r.replacement c level)
  | none => f

/-- The resolutions of the names in a filter that found nothing but suggestions. -/
def unresolvedIn (r : Resolver) (c : Coverage) (f : ColumnFilter) : List Resolution :=
  match Level.ofColumn? f.column.text with
  | some level =>
    (f.texts.map fun text => r.resolve c text (some level)).filter fun resolution =>
      !resolution.isConfident && !resolution.suggestions.isEmpty
  | none => []

/-- Filters with the names of places in them resolved, and the resolutions that found nothing but
suggestions. -/
def substitute (r : Resolver) (c : Coverage) (filters : List ColumnFilter) :
    List ColumnFilter × List Resolution :=
  (filters.map (r.substituteFilter c), filters.flatMap (r.unresolvedIn c))

end Resolver

/-- Whether a filter compares names of places for equality. -/
def ColumnFilter.namesPlaces (f : ColumnFilter) : Bool :=
  (Level.ofColumn? f.column.text).isSome && !f.texts.isEmpty

end QueryGate
