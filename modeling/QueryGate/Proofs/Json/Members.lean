import Mathlib.Data.List.Nodup
import QueryGate.Json.Basic

set_option relaxedAutoImplicit false
set_option autoImplicit false

/-!
# Members of objects

An object is put together one member after the other, and a key that comes again keeps its place
and takes its last value. So an object holds every key once, and where no key comes again it is the
list of its members.

## Main results

* `QueryGate.Json.nodup_keys_ofList` — an object that is put together holds every key once.
* `QueryGate.Json.ofList_eq_self` — without repeated keys nothing changes.
-/

namespace QueryGate.Json

/-- Giving a key a value keeps the other keys and adds this one. -/
lemma mem_keys_put {key k : String} {value : Json} : ∀ {members : Members},
    k ∈ (members.put key value).map (·.1) ↔ k = key ∨ k ∈ members.map (·.1)
  | [] => by simp [Members.put]
  | (l, v) :: rest => by
    have hrest : k ∈ (Members.put key value rest).map (·.1) ↔ k = key ∨ k ∈ rest.map (·.1) :=
      mem_keys_put
    rw [Members.put]
    split_ifs with h
    · subst h
      simp
    · simp only [List.map_cons, List.mem_cons, hrest]
      tauto

/-- Giving a key a value keeps keys distinct. -/
lemma nodup_keys_put {key : String} {value : Json} : ∀ {members : Members},
    (members.map (·.1)).Nodup → ((members.put key value).map (·.1)).Nodup
  | [], _ => by simp [Members.put]
  | (l, v) :: rest, h => by
    rw [List.map_cons, List.nodup_cons] at h
    rw [Members.put]
    split_ifs with hkey
    · exact List.nodup_cons.mpr h
    · refine List.nodup_cons.mpr ⟨fun hmem => ?_, nodup_keys_put h.2⟩
      exact (mem_keys_put.mp hmem).elim hkey h.1

/-- A member after giving a key a value was there before, or has this value. -/
lemma mem_put {key : String} {value : Json} {m : String × Json} : ∀ {members : Members},
    m ∈ members.put key value → m.2 = value ∨ m ∈ members
  | [], h => by
    rw [List.mem_singleton.mp h]
    exact Or.inl rfl
  | (l, v) :: rest, h => by
    rw [Members.put] at h
    split_ifs at h with hkey
    · rcases List.mem_cons.mp h with rfl | h
      · exact Or.inl rfl
      · exact Or.inr (List.mem_cons_of_mem _ h)
    · rcases List.mem_cons.mp h with rfl | h
      · exact Or.inr List.mem_cons_self
      · exact (mem_put h).imp_right (List.mem_cons_of_mem _)

/-- Members with repeated keys merged hold every key once. -/
lemma nodup_keys_ofList (members : Members) : ((Members.ofList members).map (·.1)).Nodup := by
  have hfold : ∀ (ms done : Members), (done.map (·.1)).Nodup →
      ((ms.foldl (fun done m => Members.put m.1 m.2 done) done).map (·.1)).Nodup := by
    intro ms
    induction ms with
    | nil => exact fun _ hdone => hdone
    | cons m ms ih => exact fun done hdone => ih _ (nodup_keys_put hdone)
  exact hfold members [] List.nodup_nil

/-- A new key stands at the end. -/
lemma put_of_not_mem {key : String} {value : Json} : ∀ {members : Members},
    key ∉ members.map (·.1) → members.put key value = members ++ [(key, value)]
  | [], _ => rfl
  | (l, v) :: rest, h => by
    rw [List.map_cons, List.mem_cons, not_or] at h
    rw [Members.put, if_neg (Ne.symm h.1), put_of_not_mem h.2, List.cons_append]

/-- Members without repeated keys stay as they are. -/
lemma ofList_eq_self {members : Members} (h : (members.map (·.1)).Nodup) :
    Members.ofList members = members := by
  have hfold : ∀ ms done : Members, ((done ++ ms).map (·.1)).Nodup →
      ms.foldl (fun done m => Members.put m.1 m.2 done) done = done ++ ms := by
    intro ms
    induction ms with
    | nil => exact fun done _ => (List.append_nil done).symm
    | cons m ms ih =>
      intro done hnodup
      have hnew : m.1 ∉ done.map (·.1) := by
        rw [List.map_append, List.nodup_append'] at hnodup
        exact fun hmem => hnodup.2.2 hmem List.mem_cons_self
      rw [List.foldl_cons, put_of_not_mem hnew, ih _ (by simpa using hnodup)]
      simp
  exact hfold members [] h

end QueryGate.Json
