import QueryGate.Geo.Level
import QueryGate.Text.Blank
import QueryGate.Text.Case

set_option relaxedAutoImplicit false
set_option autoImplicit false

/-!
# Coverage

The names of places that the datasets hold, by level. A name is looked up as it is written first, by
halving the ascending names, and with letter case apart second, among the places of the first name
of each lower-case form.

## Main definitions

* `QueryGate.Coverage` — the names of each level, ascending and each once.
* `QueryGate.Coverage.ofEntries` — the coverage of a list of names with levels.
* `QueryGate.LevelNames` — the names of one level as they are looked up.
* `QueryGate.Coverage.lookup` — the stored name that a name means.
-/

namespace QueryGate

/-- The names of each level, ascending and each once. -/
structure Coverage where
  /-- The names of countries. -/
  country : List String := []
  /-- The names of the first administrative level. -/
  admin1 : List String := []
  /-- The names of cities. -/
  city : List String := []
  /-- The names of countries ascend. -/
  country_ascending : country.Pairwise (· < ·) := by exact List.Pairwise.nil
  /-- The names of the first administrative level ascend. -/
  admin1_ascending : admin1.Pairwise (· < ·) := by exact List.Pairwise.nil
  /-- The names of cities ascend. -/
  city_ascending : city.Pairwise (· < ·) := by exact List.Pairwise.nil
  deriving DecidableEq, Repr

/-- Whether a text holds nothing but white space. -/
def Text.isBlankText (s : String) : Bool := s.toList.all Text.isBlank

namespace Coverage

/-- Names in ascending order, each once. Names compare by their code points. -/
def arrange (names : List String) : List String :=
  names.eraseDups.mergeSort fun a b => decide (a ≤ b)

/-- A list without its repeats has none. -/
theorem nodup_eraseDups : ∀ names : List String, names.eraseDups.Nodup
  | [] => by simp
  | name :: names => by
    rw [List.eraseDups_cons, List.nodup_cons]
    exact ⟨by simp, nodup_eraseDups _⟩
  termination_by names => names.length
  decreasing_by exact Nat.lt_succ_of_le (List.length_filter_le _ _)

/-- Arranged names ascend. -/
theorem ascending_arrange (names : List String) : (arrange names).Pairwise (· < ·) := by
  have htrans : ∀ a b c : String, decide (a ≤ b) = true → decide (b ≤ c) = true →
      decide (a ≤ c) = true := by
    simpa only [decide_eq_true_eq] using fun _ _ _ => String.le_trans
  have htotal : ∀ a b : String, (decide (a ≤ b) || decide (b ≤ a)) = true := by
    simpa only [Bool.or_eq_true, decide_eq_true_eq] using String.le_total
  have hsorted : (arrange names).Pairwise fun a b => decide (a ≤ b) = true :=
    List.pairwise_mergeSort htrans htotal _
  have hdistinct : (arrange names).Nodup :=
    (List.mergeSort_perm _ _).nodup_iff.mpr (nodup_eraseDups names)
  exact hsorted.imp₂ (fun _ _ hle hne => Std.lt_of_le_of_ne (of_decide_eq_true hle) hne) hdistinct

/-- The names that entries have at a level, blank ones left out. -/
def namesIn (level : Level) (entries : List (Level × String)) : List String :=
  arrange ((entries.filter fun (l, name) => l = level && !Text.isBlankText name).map (·.2))

/-- The coverage of a list of names with levels. -/
def ofEntries (entries : List (Level × String)) : Coverage where
  country := namesIn .country entries
  admin1 := namesIn .admin1 entries
  city := namesIn .city entries
  country_ascending := ascending_arrange _
  admin1_ascending := ascending_arrange _
  city_ascending := ascending_arrange _

/-- The coverage without names. -/
def empty : Coverage where
  country_ascending := .nil
  admin1_ascending := .nil
  city_ascending := .nil

/-- The names of a level. -/
def names (c : Coverage) : Level → List String
  | .country => c.country
  | .admin1 => c.admin1
  | .city => c.city

end Coverage

/-- The names of one level as they are looked up: in order, and for each lower-case form the place
of the first name that has it. -/
structure LevelNames where
  /-- The names. -/
  sorted : Array String
  /-- The places by lower-case form. -/
  byLower : List (String × Fin sorted.size)

namespace LevelNames

/-- A place for a form that has none yet. -/
def enter {n : Nat} (places : List (String × Fin n)) (form : String) (place : Fin n) :
    List (String × Fin n) :=
  if (places.lookup form).isSome then places else (form, place) :: places

/-- Names with the places of their lower-case forms. -/
def ofNames (names : List String) : LevelNames :=
  let sorted := names.toArray
  ⟨sorted, (List.finRange sorted.size).foldl
    (fun places i => enter places (Text.lower sorted[i]) i) []⟩

/-- The place of a name among ascending names, from the place `lo` to before the place `hi`. The
name in the middle says in which half it is. -/
@[semireducible]
def placeBetween (sorted : Array String) (name : String) (lo hi : Nat) (hhi : hi ≤ sorted.size) :
    Option (Fin sorted.size) :=
  if hlo : lo < hi then
    let mid : Fin sorted.size := ⟨(lo + hi) / 2, by omega⟩
    if sorted[mid] = name then some mid
    else if sorted[mid] < name then placeBetween sorted name (mid + 1) hi hhi
    else placeBetween sorted name lo mid (by omega)
  else none
  termination_by hi - lo

/-- The stored name that a name means: the name itself, else the first one that differs from it in
letter case alone. -/
def lookup (l : LevelNames) (name : String) : Option String :=
  match placeBetween l.sorted name 0 l.sorted.size (Nat.le_refl _) with
  | some place => some l.sorted[place]
  | none => (l.byLower.lookup (Text.lower name)).map (l.sorted[·])

end LevelNames

namespace Coverage

/-- The stored name that a name means at a level. -/
def lookup (c : Coverage) (level : Level) (name : String) : Option String :=
  (LevelNames.ofNames (c.names level)).lookup name

/-- The number of names. -/
def size (c : Coverage) : Nat := c.country.length + c.admin1.length + c.city.length

end Coverage

end QueryGate
