import Mathlib.Data.List.Basic
import QueryGate.Cache.Basic
import QueryGate.Cache.Key

set_option relaxedAutoImplicit false
set_option autoImplicit false

/-!
# The entries of a cache

Which entries reading and writing leave in a cache, and what keys are made of.

## Main results

* `QueryGate.Cache.mem_of_mem_get`, `QueryGate.Cache.mem_of_mem_set` — no entry appears but the
  one written.
* `QueryGate.cacheKey_query_ne_yoy` — queries and comparisons never share a key.
-/

namespace QueryGate

namespace Cache

variable {α : Type} {settings : CacheSettings} {now : Nat} {key : String} {c : Cache α}

/-- Reading brings in no entry. -/
lemma mem_of_mem_get {e : CacheEntry α} (h : e ∈ (c.get settings now key).2.entries) :
    e ∈ c.entries := by
  unfold get at h
  split at h
  · rename_i hit hfind
    split_ifs at h
    · rcases List.mem_cons.mp h with rfl | h
      · exact List.mem_of_find?_eq_some hfind
      · exact (List.mem_filter.mp h).1
    · exact (List.mem_filter.mp h).1
  · exact h

/-- A value that is read belongs to an entry of its key. -/
lemma exists_entry_of_get {v : α} (h : (c.get settings now key).1 = some v) :
    ∃ e ∈ c.entries, e.key = key ∧ e.value = v := by
  unfold get at h
  split at h
  · rename_i hit hfind
    split_ifs at h
    · have hkey := List.find?_some hfind
      exact ⟨hit, List.mem_of_find?_eq_some hfind, by simpa using hkey, Option.some.inj h⟩
  · exact absurd h nofun

/-- Writing brings in no entry but the one written. -/
lemma mem_of_mem_set {v : α} {e : CacheEntry α} (h : e ∈ (c.set settings now key v).entries) :
    e = ⟨key, v, now⟩ ∨ e ∈ c.entries := by
  rcases List.mem_cons.mp (List.mem_of_mem_take h) with rfl | h
  · exact Or.inl rfl
  · exact Or.inr (List.mem_filter.mp h).1

end Cache

/-- Queries and comparisons never share a key. -/
lemma cacheKey_query_ne_yoy (args args' : Json) : cacheKey "query" args ≠ cacheKey "yoy" args' := by
  intro h
  have hhead := congrArg (fun key : String => key.toList.head?) h
  simp [cacheKey] at hhead

end QueryGate
