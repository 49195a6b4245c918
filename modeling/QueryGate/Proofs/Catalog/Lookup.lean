import QueryGate.Proofs.Catalog.Registration
import QueryGate.Proofs.Decimal.Order

set_option relaxedAutoImplicit false
set_option autoImplicit false

/-!
# Looking up datasets

A catalog answers the name of a dataset with that dataset, and an unknown name with the names of
three datasets that are most like it. Which three these are does not depend on the order in which
the datasets are gone through.

## Main definitions

* `QueryGate.Catalog.Before` — a name comes before another one as a suggestion.
* `QueryGate.Catalog.Nearest` — suggestions are the nearest there are.
* `QueryGate.Catalog.Faithful` — a catalog answers every name as it should.

## Main results

* `QueryGate.Catalog.Nearest.unique` — there is one list of nearest names.
* `QueryGate.Catalog.nearest_closest` — the suggestions of a catalog are that list.
* `QueryGate.Catalog.ofDatasets_faithful` — which lists of datasets make a catalog, why others do
  not, and what the catalog answers.
-/

namespace QueryGate.Catalog

open Outcome

/-! ## The nearest names -/

/-- A name comes before another one as a suggestion for `s`: it is more alike, or as much and it is
less. -/
def Before (s a b : String) : Prop :=
  Text.editRatio s b < Text.editRatio s a ∨ ¬ Text.editRatio s a < Text.editRatio s b ∧ a < b

/-- A name is like enough to be suggested for `s`. -/
def Similar (s id : String) : Prop := 0.5 ≤ Text.editRatio s id

/-- Suggestions for `s` are the nearest there are. -/
structure Nearest (c : Catalog) (s : String) (found : List String) : Prop where
  /-- There are at most three. -/
  length_le : found.length ≤ 3
  /-- Each is the name of a dataset and like enough. -/
  known : ∀ id ∈ found, (∃ d ∈ c.datasets, d.fileId = id) ∧ Similar s id
  /-- Each comes before those behind it. -/
  ordered : found.Pairwise (Before s)
  /-- Every name of a dataset that is like enough is there, unless there are three others and all of
  them come before it. -/
  nearest : ∀ d ∈ c.datasets, Similar s d.fileId →
    d.fileId ∈ found ∨ found.length = 3 ∧ ∀ id ∈ found, Before s id d.fileId

variable {c c' : Catalog} {s a b : String} {found others : List String}

/-- No two names come before each other. -/
lemma Before.asymm (h : Before s a b) : ¬ Before s b a := by
  have hscores : ∀ {x y : Float}, x < y → ¬ y < x := fun hxy hyx =>
    (Decimal.lt_iff_rank.mp hxy).2.asymm (Decimal.lt_iff_rank.mp hyx).2
  rintro (hscore | ⟨hnot, hname⟩)
  · rcases h with hscore' | ⟨hnot, -⟩
    · exact hscores hscore hscore'
    · exact hnot hscore
  · rcases h with hscore | ⟨-, hname'⟩
    · exact hnot hscore
    · exact hname.asymm hname'

namespace Nearest

/-- The nearest names are all different. -/
lemma nodup (h : Nearest c s found) : found.Nodup :=
  h.ordered.imp fun hbefore heq => (heq ▸ hbefore).asymm (heq ▸ hbefore)

/-- The nearest names are among any that are nearest. -/
lemma subset (h : Nearest c s found) (hothers : Nearest c s others) : found ⊆ others := by
  intro x hx
  by_contra hnot
  obtain ⟨⟨d, hd, rfl⟩, hsimilar⟩ := h.known x hx
  obtain ⟨hlength, hbefore⟩ := (hothers.nearest d hd hsimilar).resolve_left hnot
  -- The others are three, so one of them is left out here although it comes before a name that is
  -- not.
  obtain ⟨y, hy, hmissing⟩ : ∃ y ∈ others, y ∉ found := by
    by_contra hall
    push Not at hall
    have hmore : (d.fileId :: others).length ≤ found.length :=
      ((List.nodup_cons.mpr ⟨hnot, hothers.nodup⟩).subperm
        (List.cons_subset.mpr ⟨hx, hall⟩)).length_le
    rw [List.length_cons, hlength] at hmore
    exact absurd (hmore.trans h.length_le) (by decide)
  obtain ⟨⟨e, he, rfl⟩, hsimilar'⟩ := hothers.known y hy
  obtain ⟨-, hafter⟩ := (h.nearest e he hsimilar').resolve_left hmissing
  exact (hafter _ hx).asymm (hbefore _ hy)

/-- **There is one list of nearest names.** -/
lemma unique (h : Nearest c s found) (hothers : Nearest c s others) : others = found := by
  have hperm : others.Perm found := (List.perm_ext_iff_of_nodup hothers.nodup h.nodup).mpr
    fun x => ⟨fun hx => hothers.subset h hx, fun hx => h.subset hothers hx⟩
  refine hperm.eq_of_pairwise (fun a b _ _ hab hba => ?_) hothers.ordered h.ordered
  exact absurd hba hab.asymm

/-- The nearest names are the same in whatever order the datasets stand. -/
lemma of_perm (hperm : c'.datasets.Perm c.datasets) (h : Nearest c s found) :
    Nearest c' s found := by
  constructor
  case length_le => exact h.length_le
  case known => simpa only [hperm.mem_iff] using h.known
  case ordered => exact h.ordered
  case nearest => simpa only [hperm.mem_iff] using h.nearest

end Nearest

/-! ## The names that are found -/

/-- What names are sorted by for `s`. -/
def nearness (s id : String) : (WithBot (ℤ ×ₗ ℤ ×ₗ ℤ))ᵒᵈ ×ₗ String :=
  Decimal.scoreKey (Text.editRatio s id) id

/-- The names of datasets that are like enough to be suggested. -/
def similar (c : Catalog) (s : String) : List String :=
  (c.datasets.map (·.fileId)).filter fun id => 0.5 ≤ Text.editRatio s id

lemma mem_similar_iff {id : String} :
    id ∈ c.similar s ↔ (∃ d ∈ c.datasets, d.fileId = id) ∧ Similar s id := by
  simp [similar, Similar]

/-- Names that are like enough compare by nearness. -/
lemma before_iff_nearness (ha : Similar s a) (hb : Similar s b) :
    Before s a b ↔ nearness s a < nearness s b :=
  (Decimal.scoreKey_lt_iff (Decimal.rank_ne_bot_of_le ha) (Decimal.rank_ne_bot_of_le hb)).symm

/-- Names are told apart by their nearness. -/
lemma nearness_injective (s : String) : Function.Injective (nearness s) :=
  fun _ _ h => (Prod.mk.inj (toLex.injective h)).2

/-- The names that are suggested are the first three by nearness. -/
lemma closest_eq_take (c : Catalog) (s : String) :
    c.closest s =
      ((c.similar s).mergeSort fun a b => decide (nearness s a ≤ nearness s b)).take 3 := by
  have hscored : (c.datasets.map fun d => (Text.editRatio s d.fileId, d.fileId)).filter
      (fun p => 0.5 ≤ p.1) = (c.similar s).map fun id => (Text.editRatio s id, id) := by
    simp only [similar, List.filter_map, List.map_map]
    rfl
  have hsorted : ((c.similar s).mergeSort fun a b => decide (nearness s a ≤ nearness s b)).map
        (fun id => (Text.editRatio s id, id)) =
      ((c.similar s).map fun id => (Text.editRatio s id, id)).mergeSort fun a b =>
        if b.1 < a.1 then true else if a.1 < b.1 then false else decide (a.2 ≤ b.2) := by
    refine List.map_mergeSort fun a ha b hb => (Decimal.ite_eq_scoreKey_le ?_ ?_).symm
    · exact Decimal.rank_ne_bot_of_le (mem_similar_iff.mp ha).2
    · exact Decimal.rank_ne_bot_of_le (mem_similar_iff.mp hb).2
  unfold closest
  dsimp only
  rw [hscored, ← hsorted, ← List.map_take, List.map_map]
  exact List.map_id _

/-- **The suggestions of a catalog are the nearest names.** -/
lemma nearest_closest (hdistinct : (c.datasets.map (·.fileId)).Nodup) (s : String) :
    Nearest c s (c.closest s) := by
  have hsimilar : ∀ id ∈ c.closest s, id ∈ c.similar s := by
    rw [closest_eq_take]
    exact fun id hid => List.mem_mergeSort.mp (List.mem_of_mem_take hid)
  have hbefore : ∀ {a b : String}, a ∈ c.similar s → b ∈ c.similar s → a ≠ b →
      nearness s a ≤ nearness s b → Before s a b := by
    intro a b ha hb hne hle
    rw [before_iff_nearness (mem_similar_iff.mp ha).2 (mem_similar_iff.mp hb).2]
    exact hle.lt_of_ne fun heq => hne (nearness_injective s heq)
  constructor
  case length_le =>
    rw [closest_eq_take]
    exact List.length_take_le 3 _
  case known => exact fun id hid => mem_similar_iff.mp (hsimilar id hid)
  case ordered =>
    have hnodup : (c.closest s).Nodup := by
      have hall : (c.similar s).Nodup := hdistinct.filter _
      rw [closest_eq_take]
      exact ((List.mergeSort_perm _ _).nodup_iff.mpr hall).sublist (List.take_sublist 3 _)
    have hle : (c.closest s).Pairwise fun a b => nearness s a ≤ nearness s b := by
      rw [closest_eq_take]
      exact (pairwise_mergeSort_of_key (nearness s) fun _ _ _ _ => rfl).sublist
        (List.take_sublist 3 _)
    exact (hnodup.and hle).imp_of_mem fun ha hb h =>
      hbefore (hsimilar _ ha) (hsimilar _ hb) h.1 h.2
  case nearest =>
    intro d hd hlike
    have hmem : d.fileId ∈ c.similar s := mem_similar_iff.mpr ⟨⟨d, hd, rfl⟩, hlike⟩
    have hfirst := mem_take_mergeSort_or (nearness s) (fun _ _ _ _ => rfl) 3 hmem
    rw [← closest_eq_take] at hfirst
    by_cases hfound : d.fileId ∈ c.closest s
    · exact .inl hfound
    · obtain ⟨hlength, hle⟩ := hfirst.resolve_left hfound
      refine .inr ⟨hlength, fun id hid => ?_⟩
      exact hbefore (hsimilar id hid) hmem (fun heq => hfound (heq ▸ hid)) (hle id hid)

/-! ## Answers -/

/-- A catalog answers every name as it should. -/
structure Faithful (c : Catalog) : Prop where
  /-- The name of a dataset is answered with that dataset and with no other one. -/
  found : ∀ s d, c.get s = .ok d ↔ d ∈ c.datasets ∧ d.fileId = s
  /-- What is no name is refused for its first fault. -/
  refused : ∀ s, ¬ IsName 200 s → ∃ fault, nameFault? 200 s = some fault ∧
    c.get s = .error (Refusal.badName .fileId s fault).failure
  /-- Any other name is answered with the nearest ones. -/
  unknown : ∀ s, IsName 200 s → (∀ d ∈ c.datasets, d.fileId ≠ s) →
    ∃ found, c.get s = .error (.notFound ("Unknown file_id '" ++ s ++ "'") found) ∧
      c.Nearest s found ∧ ∀ others, c.Nearest s others → others = found
  /-- The answers are the same in whatever order the datasets stand. -/
  reordered : ∀ c' : Catalog, c'.datasets.Perm c.datasets → ∀ s, c'.get s = c.get s

/-- What is no name is refused before any dataset is looked at. -/
lemma get_of_not_isName (c : Catalog) (h : ¬ IsName 200 s) :
    ∃ fault, nameFault? 200 s = some fault ∧
      c.get s = .error (Refusal.badName .fileId s fault).failure := by
  obtain ⟨fault, hfault, hrefused⟩ := checkName_of_not .fileId h
  exact ⟨fault, hfault, by rw [get, hrefused]; rfl⟩

/-- A name that is unknown is answered with suggestions. -/
lemma get_of_unknown (h : IsName 200 s) (hnone : ∀ d ∈ c.datasets, d.fileId ≠ s) :
    c.get s = .error (.notFound ("Unknown file_id '" ++ s ++ "'") (c.closest s)) := by
  have hname : checkName .fileId s = .ok () := checkName_eq_ok_iff.mpr h
  have hfind : c.datasets.find? (·.fileId == s) = none := by
    simpa [List.find?_eq_none] using hnone
  rw [get, hname, hfind]
  rfl

/-- The name of a dataset is answered with that dataset. -/
lemma get_eq_ok_iff (h : Registrable c.datasets) {d : Dataset} :
    c.get s = .ok d ↔ d ∈ c.datasets ∧ d.fileId = s := by
  constructor
  · intro hget
    by_cases hname : IsName 200 s
    · obtain ⟨_, -, hget⟩ := bind_eq_ok_iff.mp hget
      split at hget
      · next e hfind =>
        obtain rfl := Except.ok.inj hget
        exact ⟨List.mem_of_find?_eq_some hfind, by simpa using List.find?_some hfind⟩
      · exact absurd hget nofun
    · obtain ⟨fault, -, hrefused⟩ := c.get_of_not_isName hname
      exact absurd (hget.symm.trans hrefused) nofun
  · rintro ⟨hd, rfl⟩
    have hname : checkName .fileId d.fileId = .ok () := checkName_eq_ok_iff.mpr (h.ids d hd).name
    have hfind : c.datasets.find? (·.fileId == d.fileId) = some d := by
      have hsome : (c.datasets.find? (·.fileId == d.fileId)).isSome = true :=
        List.find?_isSome.mpr ⟨d, hd, beq_self_eq_true _⟩
      obtain ⟨e, he⟩ := Option.isSome_iff_exists.mp hsome
      have hsame : e.fileId = d.fileId := by simpa using List.find?_some he
      rw [he, List.inj_on_of_nodup_map h.distinct (List.mem_of_find?_eq_some he) hd hsame]
    rw [get, hname, hfind]
    rfl

/-- Datasets that make a catalog do so in any order. -/
lemma Registrable.of_perm {datasets others : List Dataset} (h : Registrable datasets)
    (hperm : others.Perm datasets) : Registrable others :=
  ⟨fun d hd => h.ids d (hperm.subset hd), fun d hd => h.columns d (hperm.subset hd),
    (hperm.map _).nodup_iff.mpr h.distinct⟩

/-- The answers do not depend on the order of the datasets. -/
lemma get_of_perm (h : Registrable c.datasets) (hperm : c'.datasets.Perm c.datasets) (s : String) :
    c'.get s = c.get s := by
  have h' : Registrable c'.datasets := h.of_perm hperm
  by_cases hname : IsName 200 s
  case neg =>
    obtain ⟨fault, hfault, hrefused⟩ := c.get_of_not_isName hname
    obtain ⟨fault', hfault', hrefused'⟩ := c'.get_of_not_isName hname
    rw [hfault] at hfault'
    rw [hrefused, hrefused', Option.some.inj hfault']
  by_cases hknown : ∃ d ∈ c.datasets, d.fileId = s
  · obtain ⟨d, hd, hid⟩ := hknown
    rw [(get_eq_ok_iff h).mpr ⟨hd, hid⟩, (get_eq_ok_iff h').mpr ⟨hperm.mem_iff.mpr hd, hid⟩]
  · push Not at hknown
    have hclosest : c'.closest s = c.closest s :=
      ((nearest_closest h.distinct s).of_perm hperm).unique (nearest_closest h'.distinct s)
    rw [get_of_unknown hname hknown,
      get_of_unknown hname fun d hd => hknown d (hperm.subset hd), hclosest]

/-- A catalog of datasets that make one answers every name as it should. -/
lemma Registrable.faithful (h : Registrable c.datasets) : c.Faithful := by
  constructor
  case found => exact fun s d => get_eq_ok_iff h
  case refused => exact fun s hname => c.get_of_not_isName hname
  case unknown =>
    intro s hname hnone
    have hnearest := nearest_closest h.distinct s
    exact ⟨c.closest s, get_of_unknown hname hnone, hnearest, fun _ => hnearest.unique⟩
  case reordered => exact fun c' hperm s => get_of_perm h hperm s

/-- **Catalogs are made of the right datasets and answer as they should.** A list of datasets makes
the catalog of them exactly when every name may stand as that of a dataset, every dataset has a
column and no name stands there twice; otherwise it is refused for the first dataset that something
is wrong with. A catalog answers the name of a dataset with that dataset, refuses what is no name,
and answers any other name with the three names most like it, whatever the order of the datasets.

**Proof sketch.** Datasets join the catalog one by one. By induction on the list they all do, or
there is a first one that cannot, and its offence is what the list is refused for
(`ofDatasets_eq_ok_iff`, `exists_offence`). In a catalog that is made names are different, so that
the order does not matter to what is found for one; and the closest names are ordered by likeness
and then by name, which leaves one way to order them (`Registrable.faithful`). -/
theorem ofDatasets_faithful (datasets : List Dataset) :
    (∀ c, ofDatasets datasets = .ok c ↔ c.datasets = datasets ∧ Registrable datasets) ∧
    (¬ Registrable datasets → ∃ before d after detail, datasets = before ++ d :: after ∧
      Registrable before ∧ Offence before d detail ∧
      ofDatasets datasets = .error (.config detail)) ∧
    ∀ c, ofDatasets datasets = .ok c → c.Faithful := by
  refine ⟨fun c => ofDatasets_eq_ok_iff, exists_offence, fun c hc => ?_⟩
  obtain ⟨rfl, h⟩ := ofDatasets_eq_ok_iff.mp hc
  exact h.faithful

/-- A dataset with a column of months. -/
def monthsDataset (fileId : String) : Dataset where
  fileId
  description := none
  storage := ⟨"data/months.duckdb", ⟨"by_month", by decide⟩⟩
  columns := [⟨⟨"month", by decide⟩, "INTEGER", none, none⟩]
  semantics := {}

/-- A name that is like that of one of two datasets. -/
theorem ofDatasets_faithful_power :
    let c : Catalog := ⟨[monthsDataset "power-country-year", monthsDataset "transport-city-month"]⟩
    ofDatasets c.datasets = .ok c ∧
      c.get "transport-city-month" = .ok (monthsDataset "transport-city-month") ∧
      c.get "power-countri-year" =
        .error (.notFound "Unknown file_id 'power-countri-year'" ["power-country-year"]) := by
  intro c
  have hmade : ofDatasets c.datasets = .ok c := by rfl
  have hfaithful : c.Faithful := (ofDatasets_faithful _).2.2 c hmade
  have hname : IsName 200 "power-countri-year" := by decide
  have hnone : ∀ d ∈ c.datasets, d.fileId ≠ "power-countri-year" := by simp [c, monthsDataset]
  have hlike : Similar "power-countri-year" "power-country-year" := by
    rw [Similar]
    decide +kernel
  have hunlike : ¬ Similar "power-countri-year" "transport-city-month" := by
    rw [Similar]
    decide +kernel
  have hnearest : c.Nearest "power-countri-year" ["power-country-year"] := by
    constructor
    case length_le => decide
    case known => simpa [c, monthsDataset] using hlike
    case ordered => exact List.pairwise_singleton _ _
    case nearest => simp [c, monthsDataset, hunlike]
  obtain ⟨found, hget, -, hunique⟩ := hfaithful.unknown _ hname hnone
  rw [← hunique _ hnearest] at hget
  exact ⟨hmade, (hfaithful.found _ _).mpr ⟨by simp [c], rfl⟩, hget⟩

end QueryGate.Catalog
