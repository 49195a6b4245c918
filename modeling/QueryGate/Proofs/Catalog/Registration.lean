import QueryGate.Catalog.Basic
import QueryGate.Proofs.Alphabet
import QueryGate.Proofs.Outcome
import QueryGate.Proofs.Text.Fields

set_option relaxedAutoImplicit false
set_option autoImplicit false

/-!
# Which datasets make a catalog

The datasets of a catalog have names of three parts, columns, and no name twice. A list of datasets
that is refused is refused for the first dataset that something is wrong with.

## Main definitions

* `QueryGate.IsFileId` — the texts that may stand as the name of a dataset.
* `QueryGate.Catalog.Registrable` — the lists of datasets that make a catalog.
* `QueryGate.Catalog.Offence` — what may be wrong with a dataset behind others.

## Main results

* `QueryGate.isFileId_iff` — the parts of such a name are those of a cut at the hyphens.
* `QueryGate.checkFileId_eq_ok_iff` — which names of datasets pass.
* `QueryGate.Catalog.ofDatasets_eq_ok_iff` — which lists of datasets make a catalog.
* `QueryGate.Catalog.exists_offence` — the others are refused for the first offence.
-/

namespace QueryGate

open Outcome

/-! ## Names of datasets -/

/-- The texts that may stand as the name of a dataset. -/
structure IsFileId (id : String) : Prop where
  /-- It is a name of at most 200 bytes. -/
  name : IsName 200 id
  /-- It has three parts between hyphens, and none is empty. -/
  parts : ∃ a b c, id = a ++ "-" ++ b ++ "-" ++ c ∧
    ∀ part ∈ [a, b, c], part ≠ "" ∧ '-' ∉ part.toList

/-- The parts of the name of a dataset are what a cut at the hyphens gives. -/
lemma isFileId_iff {id : String} : IsFileId id ↔
    IsName 200 id ∧ (Text.fields '-' id).length = 3 ∧ ∀ part ∈ Text.fields '-' id, part ≠ "" := by
  have hjoined : ∀ a b c, Text.joined "-" [a, b, c] = a ++ "-" ++ b ++ "-" ++ c := fun _ _ _ => rfl
  constructor
  · rintro ⟨hname, a, b, c, rfl, hparts⟩
    have hfields : Text.fields '-' (Text.joined "-" [a, b, c]) = [a, b, c] :=
      Text.fields_joined (List.cons_ne_nil a [b, c]) fun part hpart => (hparts part hpart).2
    refine ⟨hname, ?_⟩
    rw [← hjoined]
    exact ⟨congrArg List.length hfields, fun part hpart => (hparts part (hfields ▸ hpart)).1⟩
  · rintro ⟨hname, hlength, hparts⟩
    obtain ⟨a, b, c, habc⟩ := List.length_eq_three.mp hlength
    refine ⟨hname, a, b, c, ?_, fun part hpart => ?_⟩
    · have hid : Text.joined "-" (Text.fields '-' id) = id := Text.joined_fields id
      rw [← hjoined, ← habc, hid]
    · rw [← habc] at hpart
      exact ⟨hparts part hpart, Text.not_mem_of_mem_fields hpart⟩

instance (id : String) : Decidable (IsFileId id) := decidable_of_iff _ isFileId_iff.symm

example : IsFileId "power-country-year" ∧ ¬ IsFileId "power--year" := by decide

lemma checkName_eq_ok_iff {kind : NameKind} {name : String} :
    checkName kind name = .ok () ↔ IsName kind.limit name := by
  rw [← nameFault?_eq_none_iff, checkName]
  cases nameFault? kind.limit name <;> simp

/-- What is no name is refused for its first fault. -/
lemma checkName_of_not (kind : NameKind) {name : String} (h : ¬ IsName kind.limit name) :
    ∃ fault, nameFault? kind.limit name = some fault ∧
      checkName kind name = .error (.badName kind name fault) := by
  rw [← nameFault?_eq_none_iff] at h
  obtain ⟨fault, hfault⟩ := Option.ne_none_iff_exists'.mp h
  exact ⟨fault, hfault, by rw [checkName, hfault]⟩

/-- What is wrong with a text that may not stand as the name of a dataset. -/
inductive BadFileId (id : String) : Refusal → Prop
  | name {fault : NameFault} (hfault : nameFault? 200 id = some fault) :
    BadFileId id (.badName .fileId id fault)
  | shape (hname : IsName 200 id) (hparts : ¬ IsFileId id) : BadFileId id (.fileIdShape id)

/-- A name passes as that of a dataset by its parts alone. -/
lemma checkFileId_of_isName {id : String} (h : IsName 200 id) :
    (checkFileId id = .ok () ∧ IsFileId id) ∨
      (checkFileId id = .error (.fileIdShape id) ∧ ¬ IsFileId id) := by
  have hname : checkName .fileId id = .ok () := checkName_eq_ok_iff.mpr h
  have hshape : IsFileId id ↔
      (Text.fields '-' id).length = 3 ∧ ∀ part ∈ Text.fields '-' id, part ≠ "" :=
    isFileId_iff.trans (and_iff_right h)
  rw [checkFileId, hname, ok_bind, hshape]
  by_cases hparts : (Text.fields '-' id).length = 3 ∧ ∀ part ∈ Text.fields '-' id, part ≠ ""
  · have hfull : "" ∉ Text.fields '-' id := fun hmem => hparts.2 "" hmem rfl
    exact .inl ⟨if_neg (by simp [hparts.1, hfull]), hparts⟩
  · refine .inr ⟨if_pos ?_, hparts⟩
    simpa [or_iff_not_imp_left] using hparts

/-- **A text passes as the name of a dataset exactly when it may stand as one.** -/
lemma checkFileId_eq_ok_iff {id : String} : checkFileId id = .ok () ↔ IsFileId id := by
  by_cases h : IsName 200 id
  · rcases checkFileId_of_isName h with ⟨hok, hid⟩ | ⟨herror, hid⟩
    · exact iff_of_true hok hid
    · exact iff_of_false (herror ▸ nofun) hid
  · obtain ⟨fault, -, hrefused⟩ := checkName_of_not .fileId h
    refine iff_of_false ?_ fun hid => h hid.name
    rw [checkFileId, hrefused]
    exact nofun

/-- Otherwise the refusal says what is wrong with it. -/
lemma exists_badFileId {id : String} (h : ¬ IsFileId id) :
    ∃ refusal, BadFileId id refusal ∧ checkFileId id = .error refusal := by
  by_cases hname : IsName 200 id
  · obtain ⟨herror, -⟩ := (checkFileId_of_isName hname).resolve_left fun hok => h hok.2
    exact ⟨_, .shape hname h, herror⟩
  · obtain ⟨fault, hfault, hrefused⟩ := checkName_of_not .fileId hname
    exact ⟨_, .name hfault, by rw [checkFileId, hrefused]; rfl⟩

/-! ## Lists of datasets -/

namespace Catalog

/-- The lists of datasets that make a catalog. -/
structure Registrable (datasets : List Dataset) : Prop where
  /-- Every name may stand as that of a dataset. -/
  ids : ∀ d ∈ datasets, IsFileId d.fileId
  /-- Every dataset has a column. -/
  columns : ∀ d ∈ datasets, d.columns ≠ []
  /-- No name stands there twice. -/
  distinct : (datasets.map (·.fileId)).Nodup

/-- What is wrong with a dataset behind others, as it is told. -/
inductive Offence (before : List Dataset) (d : Dataset) : String → Prop
  | id {refusal : Refusal} (hid : BadFileId d.fileId refusal) :
    Offence before d refusal.failure.display
  | columns (hid : IsFileId d.fileId) (hnone : d.columns = []) :
    Offence before d ("Dataset '" ++ d.fileId ++ "' declares no columns")
  | duplicate (hid : IsFileId d.fileId) (hsome : d.columns ≠ [])
    (hseen : ∃ other ∈ before, other.fileId = d.fileId) :
    Offence before d ("Duplicate file_id '" ++ d.fileId ++ "' in manifest")

/-- Nothing is wrong with a dataset behind others. -/
structure Joins (before : List Dataset) (d : Dataset) : Prop where
  /-- Its name may stand as that of a dataset. -/
  id : IsFileId d.fileId
  /-- It has a column. -/
  columns : d.columns ≠ []
  /-- Its name is new. -/
  new : ∀ other ∈ before, other.fileId ≠ d.fileId

variable {before datasets : List Dataset} {seen : List String} {d : Dataset}

lemma registrable_append_singleton :
    Registrable (before ++ [d]) ↔ Registrable before ∧ Joins before d := by
  constructor
  · rintro ⟨hids, hcolumns, hdistinct⟩
    simp only [List.forall_mem_append, List.forall_mem_singleton] at hids hcolumns
    rw [List.map_append, List.nodup_append] at hdistinct
    refine ⟨⟨hids.1, hcolumns.1, hdistinct.1⟩, hids.2, hcolumns.2, fun other hother => ?_⟩
    exact hdistinct.2.2 _ (List.mem_map_of_mem hother) _ List.mem_cons_self
  · rintro ⟨⟨hids, hcolumns, hdistinct⟩, hid, hcolumn, hnew⟩
    constructor
    case ids => simpa [or_imp, forall_and] using ⟨hids, hid⟩
    case columns => simpa [or_imp, forall_and] using ⟨hcolumns, hcolumn⟩
    case distinct =>
      rw [List.map_append, List.nodup_append]
      exact ⟨hdistinct, by simp, by simpa using hnew⟩

/-- Something is wrong with a dataset or it may join. -/
lemma Offence.not_joins {detail : String} (h : Offence before d detail) : ¬ Joins before d := by
  intro hjoins
  cases h with
  | id hid =>
    cases hid with
    | name hfault => exact absurd (nameFault?_eq_none_iff.mpr hjoins.id.name) (hfault ▸ nofun)
    | shape _ hparts => exact hparts hjoins.id
  | columns _ hnone => exact hjoins.columns hnone
  | duplicate _ _ hseen =>
    obtain ⟨other, hother, heq⟩ := hseen
    exact hjoins.new other hother heq

/-- A dataset that may join is passed. -/
lemma checkFrom_of_joins (hseen : ∀ id, id ∈ seen ↔ ∃ other ∈ before, other.fileId = id)
    (h : Joins before d) (rest : List Dataset) :
    checkFrom seen (d :: rest) = checkFrom (d.fileId :: seen) rest := by
  have hcolumns : d.columns.isEmpty = false := by simpa using h.columns
  have hnew : seen.contains d.fileId = false := by simpa [hseen] using h.new
  rw [checkFrom, checkFileId_eq_ok_iff.mpr h.id, hcolumns, hnew]
  rfl

/-- A dataset with something wrong is refused for it. -/
lemma checkFrom_of_not_joins (hseen : ∀ id, id ∈ seen ↔ ∃ other ∈ before, other.fileId = id)
    (h : ¬ Joins before d) (rest : List Dataset) :
    ∃ detail, Offence before d detail ∧ checkFrom seen (d :: rest) = .error (.config detail) := by
  by_cases hid : IsFileId d.fileId
  case neg =>
    obtain ⟨refusal, hbad, hrefused⟩ := exists_badFileId hid
    exact ⟨_, .id hbad, by rw [checkFrom, hrefused]; rfl⟩
  have hpass : checkFileId d.fileId = .ok () := checkFileId_eq_ok_iff.mpr hid
  by_cases hcolumns : d.columns = []
  case pos => exact ⟨_, .columns hid hcolumns, by rw [checkFrom, hpass, hcolumns]; rfl⟩
  by_cases hdouble : ∃ other ∈ before, other.fileId = d.fileId
  case pos =>
    have hempty : d.columns.isEmpty = false := by simpa using hcolumns
    have hcontains : seen.contains d.fileId = true := by simpa [hseen] using hdouble
    exact ⟨_, .duplicate hid hcolumns hdouble, by rw [checkFrom, hpass, hempty, hcontains]; rfl⟩
  · exact absurd ⟨hid, hcolumns, by simpa using hdouble⟩ h

/-- The check of a list behind datasets that make a catalog goes through, or it ends at the first
dataset that something is wrong with. -/
lemma checkFrom_outcome (datasets : List Dataset)
    (hseen : ∀ id, id ∈ seen ↔ ∃ other ∈ before, other.fileId = id)
    (hbefore : Registrable before) :
    (checkFrom seen datasets = .ok () ∧ Registrable (before ++ datasets)) ∨
      ∃ good d after detail, datasets = good ++ d :: after ∧ Registrable (before ++ good) ∧
        Offence (before ++ good) d detail ∧ checkFrom seen datasets = .error (.config detail) := by
  induction datasets generalizing before seen with
  | nil => exact .inl ⟨rfl, by rwa [List.append_nil]⟩
  | cons d rest ih =>
    by_cases hjoins : Joins before d
    · have hnext : ∀ id, id ∈ d.fileId :: seen ↔ ∃ other ∈ before ++ [d], other.fileId = id := by
        intro id
        simp [hseen, or_and_right, exists_or, or_comm, eq_comm]
      rw [checkFrom_of_joins hseen hjoins]
      rcases ih hnext (registrable_append_singleton.mpr ⟨hbefore, hjoins⟩) with hok | hfails
      · exact .inl (by simpa using hok)
      · obtain ⟨good, d', after, detail, rfl, hgood, hoffence, hrefused⟩ := hfails
        rw [List.append_assoc, List.singleton_append] at hgood hoffence
        exact .inr ⟨d :: good, d', after, detail, rfl, hgood, hoffence, hrefused⟩
    · obtain ⟨detail, hoffence, hrefused⟩ := checkFrom_of_not_joins hseen hjoins rest
      rw [← List.append_nil before] at hbefore hoffence
      exact .inr ⟨[], d, rest, detail, rfl, hbefore, hoffence, hrefused⟩

/-- A list of datasets makes the catalog of them or is refused for the first offence. -/
lemma ofDatasets_outcome (datasets : List Dataset) :
    (ofDatasets datasets = .ok ⟨datasets⟩ ∧ Registrable datasets) ∨
      ∃ good d after detail, datasets = good ++ d :: after ∧ Registrable good ∧
        Offence good d detail ∧ ofDatasets datasets = .error (.config detail) := by
  have hempty : Registrable [] := ⟨by simp, by simp, List.nodup_nil⟩
  have hseen : ∀ id, id ∈ ([] : List String) ↔ ∃ other ∈ ([] : List Dataset), other.fileId = id := by
    simp
  rcases checkFrom_outcome datasets hseen hempty with
    ⟨hok, hfine⟩ | ⟨good, d, after, detail, hsplit, hgood, hoffence, hrefused⟩
  · exact .inl ⟨by rw [ofDatasets, hok]; rfl, hfine⟩
  · exact .inr ⟨good, d, after, detail, hsplit, hgood, hoffence, by rw [ofDatasets, hrefused]; rfl⟩

/-- Nothing is wrong with a dataset among some that make a catalog. -/
lemma Registrable.joins {good after : List Dataset} (h : Registrable (good ++ d :: after)) :
    Joins good d := by
  rw [List.append_cons] at h
  have hstart : Registrable (good ++ [d]) := by
    refine ⟨fun e he => h.ids e (List.mem_append_left _ he),
      fun e he => h.columns e (List.mem_append_left _ he), ?_⟩
    have hdistinct := h.distinct
    rw [List.map_append] at hdistinct
    exact (List.nodup_append.mp hdistinct).1
  exact (registrable_append_singleton.mp hstart).2

/-- **The lists of datasets that make a catalog make the catalog of them.** -/
lemma ofDatasets_eq_ok_iff {c : Catalog} :
    ofDatasets datasets = .ok c ↔ c.datasets = datasets ∧ Registrable datasets := by
  rcases ofDatasets_outcome datasets with
    ⟨hok, hfine⟩ | ⟨good, d, after, detail, rfl, -, hoffence, hrefused⟩
  · rw [hok]
    constructor
    · exact fun h => ⟨by rw [← Except.ok.inj h], hfine⟩
    · rintro ⟨rfl, -⟩
      rfl
  · exact iff_of_false (hrefused ▸ nofun) fun h => hoffence.not_joins h.2.joins

/-- **Other lists of datasets are refused for the first dataset that something is wrong with.** -/
lemma exists_offence (h : ¬ Registrable datasets) :
    ∃ good d after detail, datasets = good ++ d :: after ∧ Registrable good ∧
      Offence good d detail ∧ ofDatasets datasets = .error (.config detail) :=
  (ofDatasets_outcome datasets).resolve_left fun hok => h hok.2

end Catalog

end QueryGate
