import QueryGate.Proofs.Decimal.Order
import QueryGate.Proofs.Geo.Resolution

set_option relaxedAutoImplicit false
set_option autoImplicit false

/-!
# Names that are suggested

A name that is not resolved with confidence is answered with stored names like it: those of the
level asked for, or those of every level where that one has none. Of these the best are taken, the
most alike first and then by name.

## Main definitions

* `QueryGate.Suggestion.Before` — a suggestion comes before another one.
* `QueryGate.Resolver.Similar` — a stored name is like enough to be suggested.
* `QueryGate.Resolver.Searches` — a level is searched for such names.
* `QueryGate.Resolver.Best` — suggestions are the best there are.

## Main results

* `QueryGate.Suggestion.before_iff_key` — suggestions compare by score and then by name.
* `QueryGate.Resolver.mem_offered_iff` — which names may be suggested.
* `QueryGate.Resolver.best_suggestAt` — the suggestions for a name are the best there are.
* `QueryGate.Resolver.suggestions_best` — a resolution without confidence has these suggestions.

## Implementation notes

A score that is no number reaches no threshold. The scores that are compared are all numbers, so
nothing is asked of the scorer.
-/

namespace QueryGate

/-! ## The order of suggestions -/

namespace Suggestion

variable {a b : Suggestion}

/-- A suggestion comes before another one: it is more alike, or as much and its name is less. -/
def Before (a b : Suggestion) : Prop :=
  b.score < a.score ∨ ¬ a.score < b.score ∧ a.name < b.name

/-- What suggestions are sorted by: how alike they are, downwards, and then their names. -/
def key (s : Suggestion) : (WithBot (ℤ ×ₗ ℤ ×ₗ ℤ))ᵒᵈ ×ₗ String := Decimal.scoreKey s.score s.name

/-- The score of a suggestion is a number. -/
def Scored (s : Suggestion) : Prop := Decimal.rank s.score ≠ ⊥

/-- Suggestions compare by score and then by name. -/
lemma before_iff_key (ha : a.Scored) (hb : b.Scored) : a.Before b ↔ a.key < b.key :=
  (Decimal.scoreKey_lt_iff ha hb).symm

/-- The comparison that suggestions are sorted by is that of their keys. -/
lemma precedes_eq_key (ha : a.Scored) (hb : b.Scored) :
    precedes a b = decide (a.key ≤ b.key) := Decimal.ite_eq_scoreKey_le ha hb

end Suggestion

namespace Resolver

variable {r : Resolver} {c : Coverage} {name n : String} {level : Option Level} {l : Level}
  {levels : List Level} {s : Suggestion}

/-- A stored name is like enough to be suggested for a name. -/
def Similar (r : Resolver) (name n : String) : Prop :=
  r.threshold ≤ r.scorer (Text.trim name) n

/-- A level is searched for names like a name. When a level is asked for that stores such a name it
is the only one. -/
def Searches (r : Resolver) (c : Coverage) (name : String) (level : Option Level) (l : Level) :
    Prop :=
  ∀ k, level = some k → (∃ n ∈ c.names k, r.Similar name n) → l = k

/-- A stored name as it is suggested for a name. -/
def offer (r : Resolver) (name : String) (l : Level) (n : String) : Suggestion :=
  ⟨n, l, r.scorer (Text.trim name) n⟩

/-- Suggestions are the best there are for a name at a level, or at any. -/
structure Best (r : Resolver) (c : Coverage) (name : String) (level : Option Level)
    (found : List Suggestion) : Prop where
  /-- There are at most five. -/
  length_le : found.length ≤ 5
  /-- Each is a stored name of a level that is searched, with its score, and like enough. -/
  stored : ∀ s ∈ found, r.Searches c name level s.level ∧ s.name ∈ c.names s.level ∧
    s = r.offer name s.level s.name ∧ r.Similar name s.name
  /-- None comes before one that stands before it. -/
  ordered : found.Pairwise fun a b => ¬ b.Before a
  /-- A stored name of a level that is searched is there if it is like enough, unless there are five
  others and it comes before none of them. -/
  best : ∀ l n, r.Searches c name level l → n ∈ c.names l → r.Similar name n →
    r.offer name l n ∈ found ∨
      found.length = 5 ∧ ∀ s ∈ found, ¬ (r.offer name l n).Before s
  /-- A name that is stored once at each level is there once for each level. -/
  nodup : (∀ l, (c.names l).Nodup) → (found.map fun s => (s.level, s.name)).Nodup

/-- The stored names of some levels that are like enough, as they are suggested. -/
def offered (r : Resolver) (c : Coverage) (name : String) (levels : List Level) :
    List Suggestion :=
  (levels.flatMap fun l => (c.names l).map (r.offer name l)).filter fun s => r.threshold ≤ s.score

lemma suggest_trim (r : Resolver) (c : Coverage) (name : String) (levels : List Level) :
    r.suggest c (Text.trim name) levels =
      ((r.offered c name levels).mergeSort Suggestion.precedes).take 5 := rfl

lemma mem_offered_iff : s ∈ r.offered c name levels ↔ s.level ∈ levels ∧
    s.name ∈ c.names s.level ∧ s = r.offer name s.level s.name ∧ r.Similar name s.name := by
  rw [offered, List.mem_filter, List.mem_flatMap, decide_eq_true_iff]
  constructor
  · rintro ⟨⟨l, hl, hs⟩, hreaches⟩
    obtain ⟨n, hn, rfl⟩ := List.mem_map.mp hs
    exact ⟨hl, hn, rfl, hreaches⟩
  · rintro ⟨hlevel, hname, hself, hsimilar⟩
    refine ⟨⟨s.level, hlevel, List.mem_map.mpr ⟨s.name, hname, hself.symm⟩⟩, ?_⟩
    rw [hself]
    exact hsimilar

/-- What may be suggested has a number for its score. -/
lemma scored_of_mem_offered (h : s ∈ r.offered c name levels) : s.Scored :=
  Decimal.rank_ne_bot_of_le (of_decide_eq_true (List.mem_filter.mp h).2)

lemma offered_eq_nil_iff :
    r.offered c name [l] = [] ↔ ¬ ∃ n ∈ c.names l, r.Similar name n := by
  rw [List.eq_nil_iff_forall_not_mem, not_exists]
  constructor
  · rintro hnone n ⟨hn, hsimilar⟩
    refine hnone (r.offer name l n) (mem_offered_iff.mpr ?_)
    exact ⟨List.mem_singleton_self l, hn, rfl, hsimilar⟩
  · rintro hnone s hs
    obtain ⟨hlevel, hname, -, hsimilar⟩ := mem_offered_iff.mp hs
    rw [List.mem_singleton.mp hlevel] at hname
    exact hnone s.name ⟨hname, hsimilar⟩

lemma suggest_trim_eq_nil_iff :
    r.suggest c (Text.trim name) [l] = [] ↔ ¬ ∃ n ∈ c.names l, r.Similar name n := by
  rw [← offered_eq_nil_iff, suggest_trim, ← List.length_eq_zero_iff, ← List.length_eq_zero_iff,
    List.length_take, List.length_mergeSort]
  omega

/-- Names that are stored once at each of some different levels are offered once for each. -/
lemma nodup_offered (hlevels : levels.Nodup) (hnames : ∀ l, (c.names l).Nodup) :
    ((r.offered c name levels).map fun s => (s.level, s.name)).Nodup := by
  refine List.Nodup.sublist (List.filter_sublist.map _) ?_
  rw [List.map_flatMap, List.nodup_flatMap]
  constructor
  · intro l _
    rw [List.map_map]
    exact (hnames l).map fun n n' heq => (Prod.mk.inj heq).2
  · refine hlevels.imp fun {l l'} hne e he he' => hne ?_
    dsimp only at he he'
    rw [List.map_map, List.mem_map] at he he'
    obtain ⟨n, -, rfl⟩ := he
    obtain ⟨n', -, heq⟩ := he'
    exact (congrArg Prod.fst heq).symm

/-- The best of the names offered at the levels that are searched. -/
lemma best_suggest (hlevels : levels.Nodup)
    (hsearched : ∀ l, l ∈ levels ↔ r.Searches c name level l) :
    r.Best c name level (r.suggest c (Text.trim name) levels) := by
  have hkey : ∀ a ∈ r.offered c name levels, ∀ b ∈ r.offered c name levels,
      Suggestion.precedes a b = decide (a.key ≤ b.key) := fun a ha b hb =>
    Suggestion.precedes_eq_key (scored_of_mem_offered ha) (scored_of_mem_offered hb)
  have hoffered : ∀ s ∈ r.suggest c (Text.trim name) levels, s ∈ r.offered c name levels :=
    fun s hs => List.mem_mergeSort.mp (List.mem_of_mem_take hs)
  have hbefore : ∀ {a b : Suggestion}, a ∈ r.offered c name levels → b ∈ r.offered c name levels →
      a.key ≤ b.key → ¬ b.Before a := fun ha hb hle hbefore =>
    ((Suggestion.before_iff_key (scored_of_mem_offered hb) (scored_of_mem_offered ha)).mp
      hbefore).not_ge hle
  constructor
  case length_le => exact (List.length_take_le 5 _)
  case stored =>
    intro s hs
    obtain ⟨hlevel, hstored⟩ := mem_offered_iff.mp (hoffered s hs)
    exact ⟨(hsearched _).mp hlevel, hstored⟩
  case ordered =>
    have hsorted := (pairwise_mergeSort_of_key Suggestion.key hkey).sublist (List.take_sublist 5 _)
    refine hsorted.imp_of_mem fun ha hb hle => hbefore (hoffered _ ha) (hoffered _ hb) hle
  case best =>
    intro l n hl hn hsimilar
    have hmem : r.offer name l n ∈ r.offered c name levels :=
      mem_offered_iff.mpr ⟨(hsearched l).mpr hl, hn, rfl, hsimilar⟩
    refine (mem_take_mergeSort_or Suggestion.key hkey 5 hmem).imp_right ?_
    rintro ⟨hlength, hle⟩
    exact ⟨hlength, fun s hs => hbefore (hoffered s hs) hmem (hle s hs)⟩
  case nodup =>
    intro hnames
    have hoffered : ((r.offered c name levels).map fun s => (s.level, s.name)).Nodup :=
      nodup_offered hlevels hnames
    have hsorted := ((List.mergeSort_perm _ Suggestion.precedes).map _).nodup_iff.mpr hoffered
    exact hsorted.sublist ((List.take_sublist 5 _).map _)

/-- The suggestions for a name are the best there are. -/
lemma best_suggestAt (r : Resolver) (c : Coverage) (name : String) (level : Option Level) :
    r.Best c name level (r.suggestAt c (Text.trim name) level) := by
  have hall : ∀ l, l ∈ Level.priority := by intro l; cases l <;> decide
  cases level with
  | none => exact best_suggest (by decide) fun l => iff_of_true (hall l) nofun
  | some k =>
    rw [suggestAt]
    by_cases hnear : ∃ n ∈ c.names k, r.Similar name n
    · rw [if_neg (by rwa [List.isEmpty_iff, suggest_trim_eq_nil_iff, not_not])]
      refine best_suggest (List.nodup_singleton k) fun l => ?_
      rw [List.mem_singleton]
      constructor
      · rintro rfl k' hk -
        exact Option.some.inj hk
      · exact fun hsearched => hsearched k rfl hnear
    · rw [if_pos (by rwa [List.isEmpty_iff, suggest_trim_eq_nil_iff])]
      refine best_suggest (by decide) fun l => iff_of_true (hall l) fun k' hk hnear' => ?_
      obtain rfl := Option.some.inj hk
      exact absurd hnear' hnear

/-- A resolution that is not confident has the suggestions for the trimmed name. -/
lemma suggestions_of_unsure (h : (r.resolve c name level).isConfident = false) :
    (r.resolve c name level).suggestions = r.suggestAt c (Text.trim name) level := by
  have houtcome := (resolve_outcome r c name level).isConfident_iff.not.mp (by simp [h])
  obtain ⟨hfind, hself⟩ := not_or.mp houtcome
  unfold resolve
  dsimp only
  rw [Option.not_isSome_iff_eq_none.mp hfind, not_not.mp hself, bne_self_eq_false]
  rfl

/-- **A name that is not resolved with confidence is answered with the five stored names most like
it,** or with all that are like enough if there are fewer, for any scorer and any threshold.

**Proof sketch.** Suggestions are the stored names over the threshold, sorted by their scores and
cut after the fifth, so that whatever is left out scores no better than what is kept
(`best_suggest`). They are looked for at the level asked for, and at all levels if nothing there is
like the name or no level is asked for (`best_suggestAt`). A resolution that is not sure has just
these suggestions (`suggestions_of_unsure`). -/
theorem suggestions_best (r : Resolver) (c : Coverage) (name : String) (level : Option Level)
    (hunsure : (r.resolve c name level).isConfident = false) :
    r.Best c name level (r.resolve c name level).suggestions := by
  rw [suggestions_of_unsure hunsure]
  exact best_suggestAt r c name level

/-- A name like one that is stored at two other levels than the one asked for. -/
theorem suggestions_best_pariss :
    let c := Coverage.ofEntries [(.city, "Paris"), (.country, "France"), (.admin1, "Paris")]
    let res := resolve {} c "Pariss" (some .country)
    res.isConfident = false ∧ Best {} c "Pariss" (some .country) res.suggestions ∧
      (res.suggestions.map fun s => (s.level, s.name)).Nodup := by
  intro c res
  have hunsure : res.isConfident = false := by
    rw [← Bool.not_eq_true, isConfident_resolve]
    rintro (⟨n, hn, hlower⟩ | hother)
    · obtain ⟨hentry, -⟩ := Coverage.mem_names_ofEntries.mp hn
      have hall : ∀ e ∈ [(Level.city, "Paris"), (.country, "France"), (.admin1, "Paris")],
          Text.lower e.2 ≠ Text.lower (Text.trim "Pariss") := by decide +kernel
      exact hall _ hentry hlower
    · exact hother (by decide +kernel)
  have hbest := suggestions_best {} c "Pariss" (some .country) hunsure
  exact ⟨hunsure, hbest, hbest.nodup (Coverage.nodup_names_ofEntries _)⟩

end Resolver

end QueryGate
