import Mathlib.Data.List.Nodup
import Mathlib.Data.List.Perm.Subperm
import QueryGate.Proofs.Cache.Entries

set_option relaxedAutoImplicit false
set_option autoImplicit false

/-!
# What a cache forgets

A cache whose entries have keys of their own is read and written one key at a time. An entry is
lost when it is past its time, or when as many other keys as the cache has room for were read or
written after it.

## Main definitions

* `QueryGate.CacheEntry.Good` — an entry that is not past its time.
* `QueryGate.Cache.Distinct` — every entry has a key of its own.
* `QueryGate.Cache.Behind` — an entry with only entries of certain keys before it.

## Main results

* `QueryGate.Cache.get_eq_some`, `QueryGate.Cache.get_eq_none` — what reading gives and leaves.
* `QueryGate.Cache.mem_get_of_miss` — reading in vain takes no good entry away.
* `QueryGate.Cache.Behind.get`, `QueryGate.Cache.Behind.set` — an entry stays as long as there are
  fewer keys before it than the cache has room for.
-/

namespace QueryGate

/-- An entry that is not past its time. -/
def CacheEntry.Good {α : Type} (settings : CacheSettings) (now : Nat) (e : CacheEntry α) : Prop :=
  now - e.storedAt < settings.ttl

namespace Cache

variable {α : Type} {settings : CacheSettings} {now : Nat} {key : String} {c : Cache α}
  {e : CacheEntry α} {v : α}

/-! ## Reading -/

/-- The entries of other keys. -/
lemma mem_without {entries : List (CacheEntry α)} :
    e ∈ without key entries ↔ e ∈ entries ∧ e.key ≠ key := by
  simp [without]

/-- Reading in vain leaves the entries of other keys. -/
lemma get_eq_none (h : (c.get settings now key).1 = none) :
    (c.get settings now key).2 = ⟨without key c.entries⟩ := by
  cases hfind : c.entries.find? (·.key == key) with
  | none =>
    have hother : ∀ e ∈ c.entries, (e.key != key) = true := by simpa using hfind
    rw [get, hfind, without, List.filter_eq_self.mpr hother]
  | some hit =>
    simp only [get, hfind] at h ⊢
    split_ifs at h ⊢
    rfl

/-- A value that is read is that of a good entry, which becomes the most recent one. -/
lemma get_eq_some (h : (c.get settings now key).1 = some v) :
    ∃ e ∈ c.entries, e.key = key ∧ e.value = v ∧ e.Good settings now ∧
      (c.get settings now key).2 = ⟨e :: without key c.entries⟩ := by
  cases hfind : c.entries.find? (·.key == key) with
  | none =>
    rw [get, hfind] at h
    exact absurd h nofun
  | some hit =>
    have hkey : hit.key = key := by simpa using List.find?_some hfind
    simp only [get, hfind] at h ⊢
    split_ifs at h ⊢ with hgood
    exact ⟨hit, List.mem_of_find?_eq_some hfind, hkey, Option.some.inj h, hgood, rfl⟩

/-! ## Keys -/

/-- Every entry has a key of its own. -/
def Distinct (c : Cache α) : Prop := (c.entries.map (·.key)).Nodup

/-- Entries with one key are one entry. -/
lemma Distinct.eq_of_key (h : c.Distinct) {e' : CacheEntry α} (he : e ∈ c.entries)
    (he' : e' ∈ c.entries) (hkey : e.key = e'.key) : e = e' :=
  List.inj_on_of_nodup_map h he he' hkey

/-- Fewer entries still have keys of their own. -/
lemma Distinct.sublist (h : c.Distinct) {entries : List (CacheEntry α)}
    (hsub : entries.Sublist c.entries) : Distinct ⟨entries⟩ := List.Nodup.sublist (hsub.map _) h

/-- So do the entries of other keys with an entry of this one. -/
lemma Distinct.cons_without (h : c.Distinct) (e : CacheEntry α) :
    Distinct ⟨e :: without e.key c.entries⟩ := by
  have hrest : Distinct ⟨without e.key c.entries⟩ := h.sublist List.filter_sublist
  refine List.nodup_cons.mpr ⟨fun hmem => ?_, hrest⟩
  obtain ⟨e', he', hkey⟩ := List.mem_map.mp hmem
  exact (mem_without.mp he').2 hkey

/-- After reading every entry has a key of its own. -/
lemma Distinct.get (h : c.Distinct) : (c.get settings now key).2.Distinct := by
  cases hread : (c.get settings now key).1 with
  | none =>
    rw [get_eq_none hread]
    exact h.sublist List.filter_sublist
  | some v =>
    obtain ⟨e, -, rfl, -, -, hafter⟩ := get_eq_some hread
    rw [hafter]
    exact h.cons_without e

/-- After writing every entry has a key of its own. -/
lemma Distinct.set (h : c.Distinct) : (c.set settings now key v).Distinct :=
  (h.cons_without ⟨key, v, now⟩).sublist (List.take_sublist _ _)

/-- A good entry is found under its key. -/
lemma get_of_mem (h : c.Distinct) (he : e ∈ c.entries) (hgood : e.Good settings now) :
    c.get settings now e.key = (some e.value, ⟨e :: without e.key c.entries⟩) := by
  have hfind : c.entries.find? (·.key == e.key) = some e := by
    cases hfind : c.entries.find? (·.key == e.key) with
    | none => exact absurd (List.find?_eq_none.mp hfind e he) (by simp)
    | some e' =>
      have hkey : e'.key = e.key := by simpa using List.find?_some hfind
      rw [h.eq_of_key (List.mem_of_find?_eq_some hfind) he hkey]
  unfold Cache.get
  rw [hfind]
  exact if_pos hgood

/-- Reading in vain takes no good entry away. -/
lemma mem_get_of_miss (h : c.Distinct) (hmiss : (c.get settings now key).1 = none)
    (he : e ∈ c.entries) (hgood : e.Good settings now) :
    e ∈ (c.get settings now key).2.entries := by
  rw [get_eq_none hmiss]
  refine mem_without.mpr ⟨he, ?_⟩
  rintro rfl
  rw [get_of_mem h he hgood] at hmiss
  exact absurd hmiss nofun

/-! ## Entries that stay -/

/-- An entry with only entries of certain keys before it. -/
def Behind (c : Cache α) (e : CacheEntry α) (keys : List String) : Prop :=
  ∃ front back, c.entries = front ++ e :: back ∧ ∀ x ∈ front, x.key ∈ keys

namespace Behind

variable {keys : List String}

/-- The entry is there. -/
lemma mem (h : c.Behind e keys) : e ∈ c.entries := by
  obtain ⟨front, back, heq, -⟩ := h
  rw [heq]
  exact List.mem_append_right _ List.mem_cons_self

/-- The most recent entry has no entries before it. -/
lemma first (entries : List (CacheEntry α)) : Behind ⟨e :: entries⟩ e keys :=
  ⟨[], entries, rfl, fun _ hx => absurd hx List.not_mem_nil⟩

/-- A written entry has none before it. -/
lemma first_set (c : Cache α) : (c.set settings now key v).Behind ⟨key, v, now⟩ keys := by
  obtain ⟨n, hn⟩ : ∃ n, max 1 settings.capacity = n + 1 := ⟨max 1 settings.capacity - 1, by omega⟩
  rw [Cache.set, hn, List.take_succ_cons]
  exact first _

/-- The entries of another key leave it in its place. -/
lemma without (h : c.Behind e keys) (hkey : e.key ≠ key) :
    Behind ⟨Cache.without key c.entries⟩ e keys := by
  obtain ⟨front, back, heq, hfront⟩ := h
  refine ⟨Cache.without key front, Cache.without key back, ?_,
    fun x hx => hfront x (mem_without.mp hx).1⟩
  simp [Cache.without, heq, hkey]

/-- An entry of one of the keys may stand before it. -/
lemma cons (h : c.Behind e keys) {x : CacheEntry α} (hx : x.key ∈ keys) :
    Behind ⟨x :: c.entries⟩ e keys := by
  obtain ⟨front, back, heq, hfront⟩ := h
  refine ⟨x :: front, back, by rw [heq, List.cons_append], ?_⟩
  simpa [hx] using hfront

/-- No more entries stand before it than there are keys. -/
lemma mem_take (h : c.Behind e keys) (hdistinct : c.Distinct) {n : Nat} (hn : keys.length < n) :
    Behind ⟨c.entries.take n⟩ e keys := by
  obtain ⟨front, back, heq, hfront⟩ := h
  have hnodup : (front.map (·.key)).Nodup :=
    hdistinct.sublist (heq ▸ List.sublist_append_left front (e :: back))
  have hsub : front.map (·.key) ⊆ keys := fun k hk => by
    obtain ⟨x, hx, rfl⟩ := List.mem_map.mp hk
    exact hfront x hx
  have hlength : front.length ≤ keys.length := by
    simpa using (hnodup.subperm hsub).length_le
  obtain ⟨m, hm⟩ : ∃ m, n - front.length = m + 1 := ⟨n - front.length - 1, by omega⟩
  refine ⟨front, back.take m, ?_, hfront⟩
  rw [heq, List.take_append, hm, List.take_succ_cons, List.take_of_length_le (by omega)]

/-- Reading leaves a good entry behind the same keys, if what is read is its own key or one of
them. -/
lemma get (h : c.Behind e keys) (hdistinct : c.Distinct) (hgood : e.Good settings now)
    (hread : (c.get settings now key).1 ≠ none → key = e.key ∨ key ∈ keys) :
    (c.get settings now key).2.Behind e keys := by
  by_cases hkey : key = e.key
  · rw [hkey, get_of_mem hdistinct h.mem hgood]
    exact first _
  · have hrest : Behind ⟨Cache.without key c.entries⟩ e keys := h.without (Ne.symm hkey)
    cases hvalue : (c.get settings now key).1 with
    | none =>
      rw [get_eq_none hvalue]
      exact hrest
    | some v =>
      obtain ⟨x, -, hx, -, -, hafter⟩ := get_eq_some hvalue
      rw [hafter]
      exact hrest.cons (hx ▸ (hread (by rw [hvalue]; exact nofun)).resolve_left hkey)

/-- Writing one of the keys leaves an entry behind them, if they are fewer than the cache has room
for. -/
lemma set (h : c.Behind e keys) (hdistinct : c.Distinct) (hother : key ≠ e.key)
    (hkey : key ∈ keys) (hroom : keys.length < max 1 settings.capacity) :
    (c.set settings now key v).Behind e keys := by
  have hwhole : Behind ⟨⟨key, v, now⟩ :: Cache.without key c.entries⟩ e keys :=
    (h.without (Ne.symm hother)).cons hkey
  exact hwhole.mem_take (hdistinct.cons_without ⟨key, v, now⟩) hroom

end Behind

end Cache

end QueryGate
