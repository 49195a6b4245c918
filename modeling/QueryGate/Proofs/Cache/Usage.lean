import Mathlib.Data.Finset.Card
import QueryGate.Proofs.Cache.Recency

set_option relaxedAutoImplicit false
set_option autoImplicit false

/-!
# What a cache gives back

A cache is read, written and cleared in any order. What it gives back is told by these uses alone:
by the value last written, by the time that has passed since, and by the keys that were written or
found after the key asked for.

## Main definitions

* `QueryGate.Cache.Use` — something done with a cache, and when.
* `QueryGate.Cache.after` — the cache after some uses of it.
* `QueryGate.Cache.written?`, `QueryGate.Cache.touchedSince`, `QueryGate.Cache.lastTouch` — what
  the uses say of a key.
* `QueryGate.Cache.Lawful` — what is to be expected of a cache after some uses of it.

## Main results

* `QueryGate.Cache.source` — every entry is the value last written under its key.
* `QueryGate.Cache.pairwise_lastTouch` — the entries stand in the order in which their keys were
  last touched.
* `QueryGate.Cache.behind_of_written` — an entry has only those before it that were touched later.
* `QueryGate.Cache.lawful_after` — a cache meets all expectations.

## Implementation notes

Uses are listed the last first, as the entries of a cache are.
-/

namespace QueryGate.Cache

variable {α : Type} {settings : CacheSettings} {now : Nat} {key : String} {v : α}

/-! ## Uses -/

/-- What is done with a cache. -/
inductive Act (α : Type)
  /-- A key is read. -/
  | get (key : String)
  /-- A key is given a value. -/
  | set (key : String) (value : α)
  /-- All entries are dropped. -/
  | clear

/-- Something done with a cache, and when. -/
structure Use (α : Type) where
  /-- The time. -/
  time : Nat
  /-- What is done. -/
  act : Act α

variable {u : Use α} {past : List (Use α)}

/-- The cache after one use of it. -/
def use (settings : CacheSettings) (c : Cache α) (u : Use α) : Cache α :=
  match u.act with
  | .get key => (c.get settings u.time key).2
  | .set key value => c.set settings u.time key value
  | .clear => c.clear

/-- The key that a use touches: one that is written, or one that is read and found. -/
def touched? (settings : CacheSettings) (c : Cache α) (u : Use α) : Option String :=
  match u.act with
  | .get key => if (c.get settings u.time key).1.isSome then some key else none
  | .set key _ => some key
  | .clear => none

/-- The cache after some uses of it, the last first. -/
def after (settings : CacheSettings) : List (Use α) → Cache α
  | [] => {}
  | u :: past => (after settings past).use settings u

/-- The value last written under a key since all entries were last dropped, and the time of it. -/
def written? (key : String) : List (Use α) → Option (α × Nat)
  | [] => none
  | u :: past =>
    match u.act with
    | .get _ => written? key past
    | .set k value => if k = key then some (value, u.time) else written? key past
    | .clear => none

/-- The keys touched since a key was last touched. -/
def touchedSince (settings : CacheSettings) (key : String) : List (Use α) → List String
  | [] => []
  | u :: past =>
    match touched? settings (after settings past) u with
    | some k => if k = key then [] else k :: touchedSince settings key past
    | none => touchedSince settings key past

/-- How many uses there were up to the one that last touched a key; none if there was no such. -/
def lastTouch (settings : CacheSettings) (key : String) : List (Use α) → Nat
  | [] => 0
  | u :: past =>
    if touched? settings (after settings past) u = some key then past.length + 1
    else lastTouch settings key past

/-! ## One use -/

/-- What a use makes of a cache: it drops some entries, or it puts the entry of the key that it
touches before all others. -/
inductive Used (settings : CacheSettings) (c : Cache α) (u : Use α) : Prop
  | dropped (huntouched : touched? settings c u = none)
    (hsub : (c.use settings u).entries.Sublist c.entries)
  | found (e : CacheEntry α) (hget : u.act = .get e.key) (hmem : e ∈ c.entries)
    (htouched : touched? settings c u = some e.key)
    (hentries : (c.use settings u).entries = e :: without e.key c.entries)
  | stored (e : CacheEntry α) (hset : u.act = .set e.key e.value) (htime : e.storedAt = u.time)
    (htouched : touched? settings c u = some e.key)
    (hentries : (c.use settings u).entries =
      (e :: without e.key c.entries).take (max 1 settings.capacity))

/-- There is nothing else that a use can do. -/
lemma used (settings : CacheSettings) (c : Cache α) (u : Use α) : Used settings c u := by
  obtain ⟨time, act⟩ := u
  cases act with
  | get key =>
    cases hread : (c.get settings time key).1 with
    | none =>
      refine .dropped (by simp [touched?, hread]) ?_
      dsimp only [use]
      rw [get_eq_none hread]
      exact List.filter_sublist
    | some v =>
      obtain ⟨e, hmem, rfl, -, -, hafter⟩ := get_eq_some hread
      exact .found e rfl hmem (by simp [touched?, hread]) (congrArg entries hafter)
  | set key value => exact .stored ⟨key, value, time⟩ rfl rfl rfl rfl
  | clear => exact .dropped rfl (List.nil_sublist _)

/-- Entries keep keys of their own. -/
lemma distinct_use {c : Cache α} (h : c.Distinct) : (c.use settings u).Distinct := by
  cases used settings c u with
  | dropped _ hsub => exact h.sublist hsub
  | found e _ _ _ hentries =>
    rw [Distinct, hentries]
    exact h.cons_without e
  | stored e _ _ _ hentries =>
    rw [Distinct, hentries]
    exact (h.cons_without e).sublist (List.take_sublist _ _)

/-- There are never more entries than there is room for. -/
lemma size_use_le {c : Cache α} (h : c.size ≤ max 1 settings.capacity) :
    (c.use settings u).size ≤ max 1 settings.capacity := by
  unfold size at h ⊢
  cases used settings c u with
  | dropped _ hsub => exact Nat.le_trans hsub.length_le h
  | found e _ hmem _ hentries =>
    have hfewer : (without e.key c.entries).length < c.entries.length :=
      List.length_filter_lt_length_iff_exists.mpr ⟨e, hmem, by simp⟩
    rw [hentries, List.length_cons]
    omega
  | stored e _ _ _ hentries =>
    rw [hentries]
    exact List.length_take_le _ _

/-! ## Many uses -/

/-- After any uses the entries have keys of their own. -/
lemma distinct_after (settings : CacheSettings) :
    ∀ past : List (Use α), (after settings past).Distinct
  | [] => List.nodup_nil
  | _ :: past => distinct_use (distinct_after settings past)

/-- After any uses there are no more entries than there is room for. -/
lemma size_after_le (settings : CacheSettings) :
    ∀ past : List (Use α), (after settings past).size ≤ max 1 settings.capacity
  | [] => Nat.zero_le _
  | _ :: past => size_use_le (size_after_le settings past)

/-- A value was written at the time of some use. -/
lemma time_of_written {t : Nat} (h : written? key past = some (v, t)) :
    ∃ u ∈ past, u.time = t := by
  induction past with
  | nil => exact absurd h nofun
  | cons u past ih =>
    have hearlier : written? key past = some (v, t) → ∃ w ∈ u :: past, w.time = t := fun h => by
      obtain ⟨w, hw, htime⟩ := ih h
      exact ⟨w, List.mem_cons_of_mem _ hw, htime⟩
    unfold written? at h
    split at h
    · exact hearlier h
    · split_ifs at h
      · exact ⟨u, List.mem_cons_self, (Prod.mk.inj (Option.some.inj h)).2⟩
      · exact hearlier h
    · exact absurd h nofun

/-- A value that is good now was good at any time before, as it was written in the past. -/
lemma good_of_written {t earlier : Nat} (htime : ∀ u ∈ past, u.time ≤ now)
    (hgood : now < t + settings.ttl) (hwritten : written? key past = some (v, t))
    (hle : earlier ≤ now) : CacheEntry.Good settings earlier ⟨key, v, t⟩ := by
  obtain ⟨u, hu, rfl⟩ := time_of_written hwritten
  have hpast := htime u hu
  simp only [CacheEntry.Good]
  omega

/-- **Every entry is the value last written under its key.** -/
theorem source (settings : CacheSettings) (past : List (Use α)) :
    ∀ e ∈ (after settings past).entries, written? e.key past = some (e.value, e.storedAt) := by
  induction past with
  | nil => exact fun e he => absurd he List.not_mem_nil
  | cons u past ih =>
    intro e he
    have hdistinct := distinct_after settings (u :: past)
    rw [after] at he hdistinct
    obtain ⟨time, act⟩ := u
    cases act with
    | get key => exact ih e (mem_of_mem_get he)
    | clear => exact absurd he List.not_mem_nil
    | set key value =>
      rw [written?]
      dsimp only
      split_ifs with hkey
      · -- Under the key written there is no entry but the new one.
        have hnew : ((after settings past).set settings time key value).Behind
            ⟨key, value, time⟩ [] := Behind.first_set _
        obtain rfl := hdistinct.eq_of_key he hnew.mem hkey.symm
        rfl
      · rcases mem_of_mem_set he with rfl | he
        · exact absurd rfl hkey
        · exact ih e he

/-! ## The order of the entries -/

/-- A key was last touched by one of the uses so far. -/
lemma lastTouch_le (settings : CacheSettings) (key : String) :
    ∀ past : List (Use α), lastTouch settings key past ≤ past.length
  | [] => Nat.le_refl _
  | _ :: past => by
    have hle := lastTouch_le settings key past
    rw [lastTouch, List.length_cons]
    split_ifs <;> omega

/-- A key that a use does not touch was last touched when it was before. -/
lemma lastTouch_cons_of_ne (h : touched? settings (after settings past) u ≠ some key) :
    lastTouch settings key (u :: past) = lastTouch settings key past := if_neg h

/-- After a use that touches a key, the entry of this key may stand before all others. -/
lemma pairwise_cons_without {e : CacheEntry α} {entries : List (CacheEntry α)}
    (htouched : touched? settings (after settings past) u = some e.key)
    (h : entries.Pairwise fun x y =>
      lastTouch settings y.key past < lastTouch settings x.key past) :
    (e :: without e.key entries).Pairwise fun x y =>
      lastTouch settings y.key (u :: past) < lastTouch settings x.key (u :: past) := by
  have hother : ∀ x ∈ without e.key entries,
      lastTouch settings x.key (u :: past) = lastTouch settings x.key past := fun x hx => by
    refine lastTouch_cons_of_ne fun heq => (mem_without.mp hx).2 ?_
    exact Option.some.inj (heq.symm.trans htouched)
  refine List.pairwise_cons.mpr ⟨fun x hx => ?_, ?_⟩
  · rw [hother x hx, lastTouch, if_pos htouched]
    exact Nat.lt_succ_of_le (lastTouch_le settings x.key past)
  · refine (h.sublist List.filter_sublist).imp_of_mem fun {x y} hx hy hxy => ?_
    rwa [hother x hx, hother y hy]

/-- **The entries stand in the order in which their keys were last touched**, the last first. -/
theorem pairwise_lastTouch (settings : CacheSettings) (past : List (Use α)) :
    (after settings past).entries.Pairwise fun e e' =>
      lastTouch settings e'.key past < lastTouch settings e.key past := by
  induction past with
  | nil => exact List.Pairwise.nil
  | cons u past ih =>
    rw [after]
    cases used settings (after settings past) u with
    | dropped huntouched hsub =>
      have hsame : ∀ k, lastTouch settings k (u :: past) = lastTouch settings k past :=
        fun k => lastTouch_cons_of_ne (by rw [huntouched]; exact nofun)
      simp only [hsame]
      exact ih.sublist hsub
    | found e _ _ htouched hentries =>
      rw [hentries]
      exact pairwise_cons_without htouched ih
    | stored e _ _ htouched hentries =>
      rw [hentries]
      exact (pairwise_cons_without htouched ih).sublist (List.take_sublist _ _)

/-! ## Entries that stay -/

/-- **An entry has only those before it that were touched later**, as long as it is good and they
are fewer than the cache has room for.

**Proof sketch.** Induction on the uses. A use that touches the key puts its entry before all
others; a later one puts at most the entry of the key that it touches before it. -/
theorem behind_of_written {t : Nat} {keys : List String}
    (htime : ∀ u ∈ past, u.time ≤ now) (hgood : now < t + settings.ttl)
    (hroom : keys.length < max 1 settings.capacity) (hwritten : written? key past = some (v, t))
    (hkeys : ∀ k ∈ touchedSince settings key past, k ∈ keys) :
    (after settings past).Behind ⟨key, v, t⟩ keys := by
  induction past with
  | nil => exact absurd hwritten nofun
  | cons u past ih =>
    have hpast := ih fun w hw => htime w (List.mem_cons_of_mem _ hw)
    have hu := htime u List.mem_cons_self
    have hdistinct := distinct_after settings past
    have hnow : CacheEntry.Good settings u.time ⟨key, v, t⟩ :=
      good_of_written htime hgood hwritten hu
    rw [touchedSince] at hkeys
    obtain ⟨time, act⟩ := u
    cases act with
    | clear => exact absurd hwritten nofun
    | set k value =>
      rw [written?] at hwritten
      dsimp only [touched?] at hwritten hkeys
      by_cases hk : k = key
      · rw [if_pos hk] at hwritten
        obtain ⟨rfl, rfl⟩ := Prod.mk.inj (Option.some.inj hwritten)
        rw [hk]
        exact Behind.first_set _
      · rw [if_neg hk] at hwritten hkeys
        have hbehind := hpast hwritten fun x hx => hkeys x (List.mem_cons_of_mem _ hx)
        exact hbehind.set hdistinct hk (hkeys k List.mem_cons_self) hroom
    | get k =>
      rw [written?] at hwritten
      dsimp only [touched?] at hwritten hkeys
      cases hread : ((after settings past).get settings time k).1 with
      | none =>
        rw [hread] at hkeys
        exact (hpast hwritten hkeys).get hdistinct hnow fun hfound => absurd hread hfound
      | some w =>
        simp only [hread, Option.isSome_some, if_true] at hkeys
        by_cases hk : k = key
        · -- The entry that is found is the one written last.
          obtain ⟨e, hmem, rfl, -, -, hafter⟩ := get_eq_some hread
          have hsource := source settings past e hmem
          rw [hk, hwritten] at hsource
          obtain ⟨rfl, rfl⟩ := Prod.mk.inj (Option.some.inj hsource)
          rw [after, use]
          dsimp only
          rw [hafter, ← hk]
          exact Behind.first _
        · rw [if_neg hk] at hkeys
          have hbehind := hpast hwritten fun x hx => hkeys x (List.mem_cons_of_mem _ hx)
          exact hbehind.get hdistinct hnow fun _ => Or.inr (hkeys k List.mem_cons_self)

/-! ## What to expect of a cache -/

/-- What is to be expected of a cache after some uses of it, when a key is read or written. -/
structure Lawful (settings : CacheSettings) (past : List (Use α)) (now : Nat) (key : String) :
    Prop where
  /-- There are no more entries than there is room for. -/
  bounded : (after settings past).size ≤ max 1 settings.capacity
  /-- A value that is found was written last, less time ago than entries are good for. -/
  sound : ∀ v, ((after settings past).get settings now key).1 = some v →
    ∃ t, written? key past = some (v, t) ∧ now < t + settings.ttl
  /-- Such a value is found, unless as many other keys as there is room for were touched since. -/
  complete : ∀ v t, written? key past = some (v, t) → now < t + settings.ttl →
    (touchedSince settings key past).toFinset.card < max 1 settings.capacity →
    ((after settings past).get settings now key).1 = some v
  /-- A new key takes the place of the one that was touched the longest time ago, once there is no
  room left, and of no other. -/
  evicts : ∀ v, (∀ e ∈ (after settings past).entries, e.key ≠ key) →
    (after settings past).size = max 1 settings.capacity →
    ∃ kept oldest, (after settings past).entries = kept ++ [oldest] ∧
      ((after settings past).set settings now key v).entries = ⟨key, v, now⟩ :: kept ∧
      ∀ e ∈ kept, lastTouch settings oldest.key past < lastTouch settings e.key past

/-- A new key takes the last place of a full cache. -/
lemma set_of_full {c : Cache α} (now : Nat) (v : α) (hnew : ∀ e ∈ c.entries, e.key ≠ key)
    (hfull : c.size = max 1 settings.capacity) :
    ∃ kept oldest, c.entries = kept ++ [oldest] ∧
      (c.set settings now key v).entries = ⟨key, v, now⟩ :: kept := by
  unfold size at hfull
  rcases List.eq_nil_or_concat' c.entries with hnil | ⟨kept, oldest, hentries⟩
  · rw [hnil, List.length_nil] at hfull
    omega
  · have hsame : without key c.entries = c.entries :=
      List.filter_eq_self.mpr fun e he => by simpa using hnew e he
    have hroom : max 1 settings.capacity = kept.length + 1 := by
      rw [← hfull, hentries, List.length_append, List.length_singleton]
    refine ⟨kept, oldest, hentries, ?_⟩
    rw [Cache.set, hsame, hentries, hroom, List.take_succ_cons, List.take_left]

/-- **A cache keeps what was touched last, for as long as it is good.** Whatever uses are made of a
cache, as long as the clock is not put back behind any of them: it holds no more entries than it
has room for; a value that it gives was written last under its key and is not too old; such a value
is given unless too many other keys were written or found since; and a new key drives out the key
that was written or found the longest time ago.

**Proof sketch.** By induction on the uses: every entry is the value last written under its key
(`source`), the entries stand in the order in which their keys were last touched
(`pairwise_lastTouch`), and only keys touched since stand before a given one (`behind_of_written`).
A value falls off the end only when there are too many of them, and the entry at the end is the one
touched the longest time ago. -/
theorem lawful_after (settings : CacheSettings) (past : List (Use α)) (now : Nat) (key : String)
    (htime : ∀ u ∈ past, u.time ≤ now) : Lawful settings past now key where
  bounded := size_after_le settings past
  sound v hread := by
    obtain ⟨e, he, rfl, rfl, hgood, -⟩ := get_eq_some hread
    have hsource := source settings past e he
    obtain ⟨u, hu, hstored⟩ := time_of_written hsource
    have hpast := htime u hu
    unfold CacheEntry.Good at hgood
    exact ⟨e.storedAt, hsource, by omega⟩
  complete v t hwritten hgood hroom := by
    rw [List.card_toFinset] at hroom
    have hbehind := behind_of_written htime hgood hroom hwritten
      fun k hk => List.mem_dedup.mpr hk
    have hnow : CacheEntry.Good settings now ⟨key, v, t⟩ :=
      good_of_written htime hgood hwritten (Nat.le_refl now)
    exact congrArg Prod.fst (get_of_mem (distinct_after settings past) hbehind.mem hnow)
  evicts v hnew hfull := by
    obtain ⟨kept, oldest, hentries, hset⟩ := set_of_full now v hnew hfull
    have horder := pairwise_lastTouch settings past
    rw [hentries, List.pairwise_append] at horder
    exact ⟨kept, oldest, hentries, hset,
      fun e he => horder.2.2 e he oldest (List.mem_singleton.mpr rfl)⟩

/-- A cache with room for two entries, after two keys were written and the first one was found. -/
def promoted : List (Use Nat) :=
  [⟨2, .get "first"⟩, ⟨1, .set "second" 20⟩, ⟨0, .set "first" 10⟩]

/-- The first key was found and stays; a third one drives out the second. -/
theorem lawful_after_promotion :
    let settings : CacheSettings := { capacity := 2, ttl := 5 }
    (∀ u ∈ promoted, u.time ≤ 4) ∧
      ((after settings promoted).get settings 4 "first").1 = some 10 ∧
      ∃ kept oldest, (after settings promoted).entries = kept ++ [oldest] ∧
        ((after settings promoted).set settings 4 "third" 30).entries = ⟨"third", 30, 4⟩ :: kept ∧
        oldest.key = "second" := by
  intro settings
  have htime : ∀ u ∈ promoted, u.time ≤ 4 := by decide
  have hfound := (lawful_after settings promoted 4 "first" htime).complete 10 0 (by decide)
    (by decide) (by decide)
  obtain ⟨kept, oldest, hentries, hset, -⟩ :=
    (lawful_after settings promoted 4 "third" htime).evicts 30 (by decide) (by decide)
  refine ⟨htime, hfound, kept, oldest, hentries, hset, ?_⟩
  have hlast := congrArg (fun entries => (entries.getLast?).map (·.key)) hentries
  simpa using hlast.symm.trans (show _ = some "second" by decide)

end QueryGate.Cache
