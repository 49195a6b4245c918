import QueryGate.Geo.Resolver
import QueryGate.Proofs.Geo.Index
import QueryGate.Proofs.Text.Trim

set_option relaxedAutoImplicit false
set_option autoImplicit false

/-!
# Looking names of places up

A level has a name when it stores it in some letter case, and then a stored spelling of the name is
found: the name itself if it is stored. Other names are looked up in lower case as well, and what
they stand for either stands for nothing else or for itself.

## Main definitions

* `QueryGate.Coverage.Stores` — a level stores a name in some letter case.

## Main results

* `QueryGate.Coverage.mem_names_ofEntries`, `QueryGate.Coverage.nodup_names_ofEntries` — which names
  a level stores, each once.
* `QueryGate.Coverage.lookup_eq` — the name itself if it is stored, or else the first stored name
  that differs from it in letter case alone.
* `QueryGate.Coverage.lookup_eq_none_iff` — what is not found is not stored.
* `QueryGate.Coverage.lookup_eq_some` — what is found is stored.
* `QueryGate.Coverage.map_level_find_eq` — the level at which a name is found.
* `QueryGate.standsFor?_eq_of_lower_eq` — other names in two letter cases.
* `QueryGate.StandsFor.standsFor?_place` — what the places of other names stand for.
* `QueryGate.StandsFor.eq_of_lower_eq` — which of the other names stand for themselves.
-/

namespace QueryGate

/-! ## Stored names -/

namespace Coverage

variable {c : Coverage} {level : Level} {name found : String}

lemma names_ofEntries (entries : List (Level × String)) (level : Level) :
    (ofEntries entries).names level = namesIn level entries := by
  cases level <;> rfl

/-- The names of a level are those that entries have for it, blank ones left out. -/
lemma mem_names_ofEntries {entries : List (Level × String)} :
    name ∈ (ofEntries entries).names level ↔
      (level, name) ∈ entries ∧ Text.isBlankText name = false := by
  rw [names_ofEntries, namesIn, arrange, List.mem_mergeSort, List.mem_eraseDups]
  simp

/-- The names of a level ascend. -/
lemma ascending_names (c : Coverage) : ∀ level, (c.names level).Pairwise (· < ·)
  | .country => c.country_ascending
  | .admin1 => c.admin1_ascending
  | .city => c.city_ascending

/-- They are stored once each. -/
lemma nodup_names_ofEntries (entries : List (Level × String)) (level : Level) :
    ((ofEntries entries).names level).Nodup := by
  rw [List.nodup_iff_pairwise_ne]
  exact (ascending_names _ level).imp fun hlt => Std.ne_of_lt hlt

/-- A level stores a name in some letter case. -/
def Stores (c : Coverage) (level : Level) (name : String) : Prop :=
  ∃ n ∈ c.names level, Text.lower n = Text.lower name

lemma stores_iff_of_lower_eq {a b : String} (h : Text.lower a = Text.lower b) :
    c.Stores level a ↔ c.Stores level b := by
  rw [Stores, Stores, h]

/-- The name itself is found if it is stored, or else the first stored name that differs from it in
letter case alone. -/
lemma lookup_eq (c : Coverage) (level : Level) (name : String) :
    c.lookup level name =
      if name ∈ c.names level then some name
      else (c.names level).find? fun n => Text.lower n == Text.lower name :=
  LevelNames.lookup_ofNames (c.ascending_names level) name

/-- A stored name is found as it is. -/
lemma lookup_of_mem (h : name ∈ c.names level) : c.lookup level name = some name := by
  rw [lookup_eq, if_pos h]

/-- What is found is a stored spelling of the name. -/
lemma lookup_eq_some (h : c.lookup level name = some found) :
    found ∈ c.names level ∧ Text.lower found = Text.lower name := by
  rw [lookup_eq] at h
  split_ifs at h with hmem
  · obtain rfl := Option.some.inj h
    exact ⟨hmem, rfl⟩
  · exact ⟨List.mem_of_find?_eq_some h, by simpa using List.find?_some h⟩

/-- A name is not found exactly when it is stored in no letter case. -/
lemma lookup_eq_none_iff : c.lookup level name = none ↔ ¬ c.Stores level name := by
  constructor
  · intro h hstores
    obtain ⟨n, hn, hlower⟩ := hstores
    rw [lookup_eq] at h
    split_ifs at h with hmem
    exact List.find?_eq_none.mp h n hn (by simpa using hlower)
  · intro h
    cases hlookup : c.lookup level name with
    | none => rfl
    | some found => exact absurd ⟨found, lookup_eq_some hlookup⟩ h

lemma exists_lookup_iff : (∃ found, c.lookup level name = some found) ↔ c.Stores level name := by
  rw [← Option.ne_none_iff_exists', Ne, lookup_eq_none_iff, not_not]

/-- What is found for a trimmed name is trimmed. -/
lemma trim_of_lookup (h : c.lookup level name = some found) (hname : Text.trim name = name) :
    Text.trim found = found :=
  (Text.trim_eq_self_iff_of_lower_eq (lookup_eq_some h).2).mpr hname

lemma find_eq_some_iff {l : Level} :
    c.find name (some level) = some (found, l) ↔ c.lookup level name = some found ∧ l = level := by
  rw [find, Option.map_eq_some_iff]
  constructor
  · rintro ⟨n, hn, hpair⟩
    obtain ⟨rfl, rfl⟩ := Prod.mk.inj hpair
    exact ⟨hn, rfl⟩
  · rintro ⟨hfound, rfl⟩
    exact ⟨found, hfound, rfl⟩

lemma lookup_of_find_eq_none (h : c.find name (some level) = none) : c.lookup level name = none :=
  Option.map_eq_none_iff.mp h

lemma isSome_find_iff : (c.find name (some level)).isSome = true ↔ c.Stores level name := by
  rw [find, Option.isSome_map, ← Option.ne_none_iff_isSome, Ne, lookup_eq_none_iff, not_not]

/-- Names that differ in letter case alone are found at one level. -/
lemma map_level_find_eq {a b : String} (h : Text.lower a = Text.lower b) (level : Option Level) :
    (c.find a level).map (·.2) = (c.find b level).map (·.2) := by
  have hlookup : ∀ l : Level, ((c.lookup l a).map (·, l)).map (·.2) =
      ((c.lookup l b).map (·, l)).map (·.2) := by
    intro l
    have hnone : c.lookup l a = none ↔ c.lookup l b = none := by
      rw [lookup_eq_none_iff, lookup_eq_none_iff, stores_iff_of_lower_eq h]
    cases ha : c.lookup l a <;> cases hb : c.lookup l b <;> simp_all
  cases level with
  | some l => exact hlookup l
  | none =>
    rw [find, find, List.map_findSome?, List.map_findSome?]
    exact congrArg (List.findSome? · Level.priority) (funext hlookup)

end Coverage

/-! ## Other names -/

/-- A name stands for a place of a level. -/
def StandsFor (name place : String) (level : Level) : Prop :=
  standsFor? name = some (place, level)

/-- Letter case makes no difference to what a name stands for. -/
lemma standsFor?_eq_of_lower_eq {a b : String}
    (h : Text.lower (Text.trim a) = Text.lower (Text.trim b)) : standsFor? a = standsFor? b := by
  rw [standsFor?, standsFor?, h]

lemma standsFor?_trim (name : String) : standsFor? (Text.trim name) = standsFor? name :=
  standsFor?_eq_of_lower_eq (by rw [Text.trim_trim])

/-- The places in the table are trimmed and stand for no other places, and one of the other names is
its place in lower case. -/
lemma otherNames_sound : ∀ e ∈ otherNames, Text.trim e.2.1 = e.2.1 ∧
    (otherNames.lookup (Text.lower e.2.1) = none ∨
      otherNames.lookup (Text.lower e.2.1) = some e.2) ∧
    (Text.lower e.2.1 = e.1 → e = ("new york city", "New York City", .city)) := by
  decide +kernel

namespace StandsFor

variable {name place : String} {level : Level}

lemma mem_otherNames (h : StandsFor name place level) :
    (Text.lower (Text.trim name), place, level) ∈ otherNames := by
  obtain ⟨before, after, htable, -⟩ := List.lookup_eq_some_iff.mp h
  rw [htable]
  exact List.mem_append_right before List.mem_cons_self

lemma mem_keys (h : StandsFor name place level) :
    Text.lower (Text.trim name) ∈ otherNames.map (·.1) :=
  List.mem_map.mpr ⟨_, h.mem_otherNames, rfl⟩

lemma trim_place (h : StandsFor name place level) : Text.trim place = place :=
  (otherNames_sound _ h.mem_otherNames).1

/-- The place that another name stands for stands for nothing, or for itself. -/
lemma standsFor?_place (h : StandsFor name place level) :
    standsFor? place = none ∨ StandsFor place place level := by
  rw [StandsFor, standsFor?, h.trim_place]
  exact (otherNames_sound _ h.mem_otherNames).2.1

/-- One of the other names stands for itself, in another letter case. -/
lemma eq_of_lower_eq (h : StandsFor name place level)
    (hlower : Text.lower place = Text.lower (Text.trim name)) :
    Text.lower (Text.trim name) = "new york city" ∧ place = "New York City" ∧ level = .city := by
  have hrow := (otherNames_sound _ h.mem_otherNames).2.2 hlower
  simpa only [Prod.mk.injEq] using hrow

end StandsFor

end QueryGate
