import QueryGate.Proofs.Geo.Lookup
import QueryGate.Proofs.Text.ByteOrder

set_option relaxedAutoImplicit false
set_option autoImplicit false

/-!
# The spelling that is found

A name that a level stores is found as it is written. Of the names that differ from it in letter
case alone the one with the smallest bytes is found, whatever the order in which they were entered
and however often.

## Main results

* `QueryGate.Coverage.lookup_eq_some_iff` — the spelling found for a name that is not stored.
* `QueryGate.Coverage.lookup_ofEntries` — what is stored, and what is found.
-/

namespace QueryGate.Coverage

variable {c : Coverage} {level : Level} {name found : String}

/-- The first name of some kind in an ascending list is the least of the kind. -/
lemma least_of_find? {names : List String} (hsorted : names.Pairwise (· < ·))
    {kind : String → Bool} (h : names.find? kind = some found) :
    ∀ n ∈ names, kind n = true → found ≤ n := by
  obtain ⟨-, before, after, hnames, hbefore⟩ := List.find?_eq_some_iff_append.mp h
  intro n hn hkind
  rw [hnames, List.mem_append, List.mem_cons] at hn
  rcases hn with hn | rfl | hn
  · exact absurd hkind (by simpa using hbefore n hn)
  · exact String.le_refl n
  · rw [hnames] at hsorted
    have hlater := (List.pairwise_cons.mp (List.pairwise_append.mp hsorted).2.1).1
    exact Std.le_of_lt (hlater n hn)

/-- For a name that is not stored the least stored name with its lower-case form is found. -/
lemma lookup_eq_some_iff (hname : name ∉ c.names level) :
    c.lookup level name = some found ↔
      found ∈ c.names level ∧ Text.lower found = Text.lower name ∧
        ∀ n ∈ c.names level, Text.lower n = Text.lower name → found ≤ n := by
  have hleast : ∀ {f : String}, c.lookup level name = some f →
      ∀ n ∈ c.names level, Text.lower n = Text.lower name → f ≤ n := by
    intro f h n hn hlower
    rw [lookup_eq, if_neg hname] at h
    exact least_of_find? (c.ascending_names level) h n hn (by simpa using hlower)
  refine ⟨fun h => ⟨(lookup_eq_some h).1, (lookup_eq_some h).2, hleast h⟩, ?_⟩
  rintro ⟨hfound, hlower, hmin⟩
  obtain ⟨f, hf⟩ := exists_lookup_iff.mpr ⟨found, hfound, hlower⟩
  obtain ⟨hmem, hsame⟩ := lookup_eq_some hf
  rw [hf, String.le_antisymm (hleast hf found hfound hlower) (hmin f hmem hsame)]

/-- **Names are looked up exactly first and in lower case second.** For every list of names with
levels and every level, the stored names ascend strictly by their bytes, and they are the names
entered at the level that are not blank. A stored name is found as it is written; for any other name
the stored name with the same lower-case form is found whose bytes are the smallest; and nothing is
found just if no stored name has that form.

**Proof sketch.** The names ascend, so halving them finds a name just if it is stored
(`LevelNames.placeBetween_eq_none_iff`). The places by lower-case form keep the first of each form
(`LevelNames.lookup_foldl_enter`), which is the least since the names ascend; and names compare as
their bytes do (`Text.bytes_lt_iff`). -/
theorem lookup_ofEntries (entries : List (Level × String)) (level : Level) (q : String) :
    let c := ofEntries entries
    (c.names level).Pairwise (fun a b => Text.bytes a < Text.bytes b) ∧
      (∀ name, name ∈ c.names level ↔
        (level, name) ∈ entries ∧ Text.isBlankText name = false) ∧
      (q ∈ c.names level → c.lookup level q = some q) ∧
      (q ∉ c.names level → ∀ found, c.lookup level q = some found ↔
        found ∈ c.names level ∧ Text.lower found = Text.lower q ∧
          ∀ n ∈ c.names level, Text.lower n = Text.lower q → Text.bytes found ≤ Text.bytes n) ∧
      (c.lookup level q = none ↔ ∀ n ∈ c.names level, Text.lower n ≠ Text.lower q) := by
  intro c
  refine ⟨?_, fun name => mem_names_ofEntries, lookup_of_mem, fun hq found => ?_, ?_⟩
  · exact (c.ascending_names level).imp Text.bytes_lt_of_lt
  · simp only [Text.bytes_le_iff]
    exact lookup_eq_some_iff hq
  · rw [lookup_eq_none_iff, Stores]
    simp only [not_exists, not_and]

/-- Of two spellings the one with the smaller bytes is found for a third. -/
example :
    let c : Coverage := { city := ["Lyon", "PARIS", "paris"], city_ascending := by decide }
    c.lookup .city "Paris" = some "PARIS" ∧ c.lookup .city "paris" = some "paris" := by
  decide +kernel

end QueryGate.Coverage
