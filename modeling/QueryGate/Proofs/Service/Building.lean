import Mathlib.Data.List.Nodup
import QueryGate.Proofs.Geo.Lookup
import QueryGate.Proofs.Service.Coverage

set_option relaxedAutoImplicit false
set_option autoImplicit false

/-!
# How the coverage is built

The coverage is built of one statement for each column that holds names of places. A column that
cannot be loaded is passed over, and of the others the names in the first cells are put together.
Only where every column fails is nothing kept.

## Main definitions

* `QueryGate.Service.namesStatement` — the statement for the names of a level in a dataset.
* `QueryGate.Service.Submission` — a statement is submitted, and an outcome comes of it.
* `QueryGate.Service.Submitted` — so are the statements for some columns, one after the other.
* `QueryGate.Service.Silenced` — they are until the engine is silent.
* `QueryGate.Service.Holds` — a name that the columns loaded hold.
* `QueryGate.Service.Built` — how the building of the coverage ends.

## Main results

* `QueryGate.Service.mem_coverageColumns`, `QueryGate.Service.nodup_coverageColumns` — which columns
  hold names of places, each once.
* `QueryGate.Service.ends_loadColumns` — every column is submitted, or the engine is silent.
* `QueryGate.Service.built_coverage` — a coverage that is not there is built so.
-/

namespace QueryGate

/-- The name of the column that holds the places of a level. -/
def Level.ident (l : Level) : Ident := ⟨l.column, by cases l <;> rfl⟩

/-- What comes of a statement that the engine replies to. Nothing comes of silence. -/
def EngineReply.outcome? : EngineReply → Option (Except Failure RowSet)
  | rows found => some (.ok found)
  | fault found => some (.error found.failure)
  | silence => none

namespace Service

open Session

variable {svc : Service} {s t u : State} {d : Dataset} {l : Level}

/-! ## Columns -/

/-- The columns that hold names of places are those of the levels that a dataset has. -/
lemma mem_coverageColumns {catalog : Catalog} :
    (d, l) ∈ coverageColumns catalog ↔ d ∈ catalog.datasets ∧ d.hasColumn l.column = true := by
  have hall : l ∈ Level.priority := by cases l <;> decide
  simp [coverageColumns, hall]

/-- They are listed once each. -/
lemma nodup_coverageColumns {catalog : Catalog} (h : catalog.datasets.Nodup) :
    (coverageColumns catalog).Nodup := by
  rw [coverageColumns, List.nodup_flatMap]
  constructor
  · intro d _
    have hlevels : Level.priority.Nodup := by decide
    exact (hlevels.filter _).map fun l l' heq => (Prod.mk.inj heq).2
  · refine h.imp fun {d d'} hne e he he' => hne ?_
    dsimp only at he he'
    obtain ⟨l, -, rfl⟩ := List.mem_map.mp he
    obtain ⟨l', -, heq⟩ := List.mem_map.mp he'
    exact (Prod.mk.inj heq).1.symm

/-! ## Submissions -/

/-- The statement for the names of a level in a dataset. -/
def namesStatement (column : Dataset × Level) : Statement :=
  ⟨distinctText column.1.storage.table column.2.ident, []⟩

lemma coverageStatement_eq (svc : Service) (column : Dataset × Level) :
    coverageStatement svc.reader column.1 column.2 = .ok (namesStatement column) := by
  have hcolumn : Ident.column column.2.column = .ok column.2.ident :=
    Ident.column_eq_ok_iff.mpr rfl
  rw [coverageStatement, hcolumn, Except.mapError.eq_2, Outcome.ok_bind,
    distinctStatement_of_taken (svc.taken.distinct _ _)]
  rfl

/-- The statement for a column is submitted, and an outcome comes of it. -/
structure Submission (svc : Service) (column : Dataset × Level) (s : State)
    (outcome : Except Failure RowSet) (t : State) : Prop where
  /-- The statement is run. -/
  run : (attempt (svc.runStatement column.1 (namesStatement column))).ends s = (.ok outcome, t)
  /-- When the breaker lets it through it reaches the engine, and the outcome is what the engine
  replies. -/
  reaches : Admits svc s → s.reply.outcome? = some outcome ∧
    t.sent = ⟨column.1.storage, namesStatement column⟩ :: s.sent ∧ t.replies = s.replies.tail
  /-- When the breaker does not it fails, and all is left as it was. -/
  refused : ¬Admits svc s → (∃ failure, outcome = .error failure) ∧ t = s

/-- The statement for a column reaches an engine that is silent, and is given up. -/
structure Silence (svc : Service) (column : Dataset × Level) (s t : State) : Prop where
  /-- The statement is run. -/
  run : (attempt (svc.runStatement column.1 (namesStatement column))).ends s =
    (.error .abandoned, t)
  /-- The breaker lets it through. -/
  admits : Admits svc s
  /-- The engine is silent. -/
  silent : s.reply.outcome? = none
  /-- It has reached the engine. -/
  sent : t.sent = ⟨column.1.storage, namesStatement column⟩ :: s.sent

/-- The statements for some columns are submitted one after the other. -/
inductive Submitted (svc : Service) : State → List (Dataset × Level) →
    List (Except Failure RowSet) → State → Prop
  | nil (s : State) : Submitted svc s [] [] s
  | cons {column : Dataset × Level} {s t u : State} {outcome : Except Failure RowSet}
    {columns : List (Dataset × Level)} {outcomes : List (Except Failure RowSet)}
    (first : Submission svc column s outcome t) (rest : Submitted svc t columns outcomes u) :
    Submitted svc s (column :: columns) (outcome :: outcomes) u

/-- The statements for some columns are submitted one after the other until the engine is
silent. -/
inductive Silenced (svc : Service) : State → List (Dataset × Level) → State → Prop
  | here {column : Dataset × Level} {s t : State} (columns : List (Dataset × Level))
    (h : Silence svc column s t) : Silenced svc s (column :: columns) t
  | later {column : Dataset × Level} {s t u : State} {outcome : Except Failure RowSet}
    {columns : List (Dataset × Level)} (first : Submission svc column s outcome t)
    (rest : Silenced svc t columns u) : Silenced svc s (column :: columns) u

/-- There is an outcome for each column. -/
lemma Submitted.length_eq {columns : List (Dataset × Level)}
    {outcomes : List (Except Failure RowSet)} (h : Submitted svc s columns outcomes t) :
    outcomes.length = columns.length := by
  induction h with
  | nil => rfl
  | cons _ _ ih => rw [List.length_cons, List.length_cons, ih]

/-- The end of a statement that the breaker lets through is what the engine replies. -/
lemma fst_ends_attempt_of_admitted (h : Admits svc s) (d : Dataset) (st : Statement) :
    ((attempt (svc.runStatement d st)).ends s).1 =
      match s.reply.outcome? with
      | some outcome => .ok outcome
      | none => .error .abandoned := by
  obtain ⟨trial, b, harrive⟩ := h
  rw [ends_attempt, runStatement, ends_bind_ok (ends_get s), harrive]
  dsimp only
  cases s.reply <;> rfl

/-- A statement is submitted, or it is given up. -/
lemma submission_or_silence (svc : Service) (column : Dataset × Level) (s : State) :
    (∃ outcome t, Submission svc column s outcome t) ∨ ∃ t, Silence svc column s t := by
  by_cases h : Admits svc s
  · obtain ⟨result, b, hrun⟩ := ends_runStatement_of_admitted h column.1 (namesStatement column)
    have hend := fst_ends_attempt_of_admitted h column.1 (namesStatement column)
    have hstate := snd_ends_attempt (svc.runStatement column.1 (namesStatement column)) s
    rw [hrun] at hstate
    cases hreply : s.reply.outcome? with
    | some outcome =>
      rw [hreply] at hend
      exact .inl ⟨outcome, _, Prod.ext hend hstate, fun _ => ⟨hreply, rfl, rfl⟩,
        fun hnot => absurd h hnot⟩
    | none =>
      rw [hreply] at hend
      exact .inr ⟨_, Prod.ext hend hstate, h, hreply, rfl⟩
  · obtain ⟨failure, hrun⟩ := ends_runStatement_of_refused h column.1 (namesStatement column)
    refine .inl ⟨.error failure, s, ?_, fun hadmits => absurd hadmits h, fun _ => ⟨⟨_, rfl⟩, rfl⟩⟩
    rw [ends_attempt, hrun]

/-! ## Buildings -/

namespace Building

/-- A building with what came of one more column. -/
def add (b : Building) (loaded : (Dataset × Level) × Except Failure RowSet) : Building :=
  match loaded.2 with
  | .ok rows => { b with
      entries := b.entries ++ (firstTexts rows).map (loaded.1.2, ·)
      loaded := b.loaded + 1 }
  | .error _ => { b with skipped := b.skipped + 1 }

/-- The names that a building has are those in the first cells of the rows that were loaded. -/
lemma mem_entries_foldl {name : String} :
    ∀ {loads : List ((Dataset × Level) × Except Failure RowSet)} {b : Building},
      (l, name) ∈ (loads.foldl add b).entries ↔ (l, name) ∈ b.entries ∨
        ∃ d rows, ((d, l), .ok rows) ∈ loads ∧ name ∈ firstTexts rows
  | [], b => by simp
  | ((d, l'), .ok rows) :: loads, b => by
    have hadd : (l, name) ∈ (b.add ((d, l'), .ok rows)).entries ↔
        (l, name) ∈ b.entries ∨ l' = l ∧ name ∈ firstTexts rows := by
      simp [add, and_comm]
    rw [List.foldl_cons, mem_entries_foldl, hadd]
    simp only [List.mem_cons, Prod.mk.injEq, Except.ok.injEq]
    constructor
    · rintro ((h | ⟨rfl, h⟩) | ⟨d', rows', h, hname⟩)
      · exact .inl h
      · exact .inr ⟨d, rows, .inl ⟨⟨rfl, rfl⟩, rfl⟩, h⟩
      · exact .inr ⟨d', rows', .inr h, hname⟩
    · rintro (h | ⟨d', rows', ⟨⟨rfl, rfl⟩, rfl⟩ | h, hname⟩)
      · exact .inl (.inl h)
      · exact .inl (.inr ⟨rfl, hname⟩)
      · exact .inr ⟨d', rows', h, hname⟩
  | ((d, l'), .error failure) :: loads, b => by
    rw [List.foldl_cons, mem_entries_foldl]
    simp [add]

/-- No column is loaded when all fail. -/
lemma loaded_foldl_eq_zero_iff :
    ∀ {loads : List ((Dataset × Level) × Except Failure RowSet)} {b : Building},
      (loads.foldl add b).loaded = 0 ↔
        b.loaded = 0 ∧ ∀ outcome ∈ loads.map Prod.snd, ∃ failure, outcome = .error failure
  | [], b => by simp
  | (column, .ok rows) :: loads, b => by
    rw [List.foldl_cons, loaded_foldl_eq_zero_iff]
    simp [add]
  | (column, .error failure) :: loads, b => by
    rw [List.foldl_cons, loaded_foldl_eq_zero_iff]
    simp [add]

/-- A column is passed over when it fails. -/
lemma skipped_foldl_pos_iff :
    ∀ {loads : List ((Dataset × Level) × Except Failure RowSet)} {b : Building},
      0 < (loads.foldl add b).skipped ↔
        0 < b.skipped ∨ ∃ outcome ∈ loads.map Prod.snd, ∃ failure, outcome = .error failure
  | [], b => by simp
  | (column, .ok rows) :: loads, b => by
    rw [List.foldl_cons, skipped_foldl_pos_iff]
    simp [add]
  | (column, .error failure) :: loads, b => by
    rw [List.foldl_cons, skipped_foldl_pos_iff]
    simp [add]

end Building

/-- Loading a column adds what comes of its statement. -/
lemma ends_loadColumn (building : Building) (column : Dataset × Level) (s : State) :
    (loadColumn svc building column).ends s =
      match (attempt (svc.runStatement column.1 (namesStatement column))).ends s with
      | (.ok outcome, t) => (.ok (building.add (column, outcome)), t)
      | (.error halt, t) => (.error halt, t) := by
  have hload : ∀ s, (attempt (do
      let statement ← Session.ofExcept (coverageStatement svc.reader column.1 column.2)
      svc.runStatement column.1 statement)).ends s =
      (attempt (svc.runStatement column.1 (namesStatement column))).ends s := fun s => by
    rw [ends_attempt, ends_attempt, coverageStatement_eq, ends_bind_ok (ends_ofExcept_ok _ s)]
  rw [loadColumn, ends_bind, hload]
  rcases (attempt (svc.runStatement column.1 (namesStatement column))).ends s with
    ⟨halt | failure | rows, t⟩ <;> rfl

/-- **Every column is submitted,** unless the engine is silent. -/
lemma ends_loadColumns : ∀ (columns : List (Dataset × Level)) (b : Building) (s : State),
    (∃ outcomes t, Submitted svc s columns outcomes t ∧
      (columns.foldlM (loadColumn svc) b).ends s =
        (.ok ((columns.zip outcomes).foldl Building.add b), t)) ∨
    ∃ t, Silenced svc s columns t ∧
      (columns.foldlM (loadColumn svc) b).ends s = (.error .abandoned, t)
  | [], b, s => .inl ⟨[], s, .nil s, rfl⟩
  | column :: columns, b, s => by
    rw [List.foldlM_cons]
    rcases submission_or_silence svc column s with ⟨outcome, t, hfirst⟩ | ⟨t, hsilent⟩
    · have hload : (loadColumn svc b column).ends s = (.ok (b.add (column, outcome)), t) := by
        rw [ends_loadColumn, hfirst.run]
      rw [ends_bind_ok hload]
      rcases ends_loadColumns columns (b.add (column, outcome)) t with
        ⟨outcomes, u, hrest, hends⟩ | ⟨u, hrest, hends⟩
      · exact .inl ⟨outcome :: outcomes, u, .cons hfirst hrest, hends⟩
      · exact .inr ⟨u, .later hfirst hrest, hends⟩
    · have hload : (loadColumn svc b column).ends s = (.error .abandoned, t) := by
        rw [ends_loadColumn, hsilent.run]
      exact .inr ⟨t, .here columns hsilent, ends_bind_error hload _⟩

/-! ## The coverage -/

/-- A name that is not blank and stands in the first cell of a row that was loaded for a level. -/
def Holds (columns : List (Dataset × Level)) (outcomes : List (Except Failure RowSet))
    (l : Level) (name : String) : Prop :=
  Text.isBlankText name = false ∧ ∃ d rows row, ((d, l), .ok rows) ∈ columns.zip outcomes ∧
    row ∈ rows.rows ∧ row.head? = some (.str name)

/-- How the building of the coverage ends. -/
inductive Built (svc : Service) (s : State) : Except Halt Coverage × State → Prop
  /-- There are columns and all fail. The coverage is empty for now, and none is kept. -/
  | failed {outcomes : List (Except Failure RowSet)} {t : State}
    (hsubmitted : Submitted svc s (coverageColumns svc.catalog) outcomes t)
    (hsome : coverageColumns svc.catalog ≠ [])
    (hall : ∀ outcome ∈ outcomes, ∃ failure, outcome = .error failure) (hnone : t.coverage = none) :
    Built svc s (.ok .empty, t)
  /-- There are no columns, or some column is loaded. The coverage is kept, with the names that the
  loaded columns hold, each once. -/
  | kept {outcomes : List (Except Failure RowSet)} {t : State} {c : Coverage}
    (hsubmitted : Submitted svc s (coverageColumns svc.catalog) outcomes t)
    (hloaded : coverageColumns svc.catalog = [] ∨ ∃ rows, .ok rows ∈ outcomes)
    (hnames : ∀ l, (c.names l).Nodup ∧
      ∀ name, name ∈ c.names l ↔ Holds (coverageColumns svc.catalog) outcomes l name) :
    Built svc s (.ok c, { t with coverage := some c })
  /-- The engine is silent, and the building is given up. -/
  | abandoned {t : State} (hsilenced : Silenced svc s (coverageColumns svc.catalog) t)
    (hnone : t.coverage = none) : Built svc s (.error .abandoned, t)

lemma mem_firstTexts_iff {rows : RowSet} {name : String} :
    name ∈ firstTexts rows ↔ ∃ row ∈ rows.rows, row.head? = some (.str name) := by
  have htext : ∀ j : Json, j.text? = some name ↔ j = .str name := by
    intro j
    cases j <;> simp [Json.text?]
  simp [firstTexts, List.mem_filterMap, Option.bind_eq_some_iff, htext]

/-- The names of a level in the coverage that is built of some columns. -/
lemma mem_names_foldl {columns : List (Dataset × Level)} {outcomes : List (Except Failure RowSet)}
    {name : String} :
    name ∈ (Coverage.ofEntries ((columns.zip outcomes).foldl Building.add {}).entries).names l ↔
      Holds columns outcomes l name := by
  rw [Coverage.mem_names_ofEntries, Building.mem_entries_foldl, Holds, and_comm]
  refine and_congr_right fun _ => ?_
  simp [mem_firstTexts_iff]

/-- A building fails when there are columns and all of them fail. -/
lemma failed_foldl_iff {columns : List (Dataset × Level)}
    {outcomes : List (Except Failure RowSet)} (h : outcomes.length = columns.length) :
    (((columns.zip outcomes).foldl Building.add {}).loaded = 0 ∧
      0 < ((columns.zip outcomes).foldl Building.add {}).skipped) ↔
    columns ≠ [] ∧ ∀ outcome ∈ outcomes, ∃ failure, outcome = .error failure := by
  have houtcomes : (columns.zip outcomes).map Prod.snd = outcomes := List.map_snd_zip h.le
  have hnonempty : columns ≠ [] ↔ outcomes ≠ [] := by
    rw [← List.length_pos_iff, ← List.length_pos_iff, h]
  rw [Building.loaded_foldl_eq_zero_iff, Building.skipped_foldl_pos_iff, houtcomes,
    hnonempty]
  constructor
  · rintro ⟨⟨-, hfailed⟩, hpos | ⟨outcome, hmem, -⟩⟩
    · exact absurd hpos (Nat.lt_irrefl 0)
    · exact ⟨List.ne_nil_of_mem hmem, hfailed⟩
  · rintro ⟨hne, hfailed⟩
    obtain ⟨outcome, hmem⟩ := List.exists_mem_of_ne_nil _ hne
    exact ⟨⟨rfl, hfailed⟩, .inr ⟨outcome, hmem, hfailed outcome hmem⟩⟩

/-- A coverage that is not there is built of what comes of all columns. -/
theorem built_coverage (h : s.coverage = none) : Built svc s (svc.coverage.ends s) := by
  have hcoverage : SameCoverage s _ :=
    Leaves.foldlM (leaves_loadColumn svc) (coverageColumns svc.catalog) {} s
  rw [ends_coverage_of_none svc h]
  rcases ends_loadColumns (coverageColumns svc.catalog) {} s with
    ⟨outcomes, t, hsubmitted, hends⟩ | ⟨t, hsilenced, hends⟩
  · rw [hends] at hcoverage ⊢
    have hnone : t.coverage = none := Eq.trans hcoverage h
    have hiff := failed_foldl_iff hsubmitted.length_eq
    dsimp only [Building.finish]
    split_ifs with hfailed <;>
      rw [Bool.and_eq_true, decide_eq_true_iff, decide_eq_true_iff] at hfailed
    · obtain ⟨hsome, hall⟩ := hiff.mp hfailed
      exact .failed hsubmitted hsome hall hnone
    · refine .kept hsubmitted ?_ fun l => ⟨Coverage.nodup_names_ofEntries _ l, fun name => ?_⟩
      · by_contra hnot
        rw [not_or, not_exists] at hnot
        refine hfailed (hiff.mpr ⟨hnot.1, fun outcome hmem => ?_⟩)
        cases outcome with
        | ok rows => exact absurd hmem (hnot.2 rows)
        | error failure => exact ⟨failure, rfl⟩
      · exact mem_names_foldl
  · rw [hends] at hcoverage ⊢
    exact .abandoned hsilenced (Eq.trans hcoverage h)

/-- Asking for the coverage does not fail. -/
lemma ends_coverage (svc : Service) (s : State) :
    ∃ t, (∃ c, svc.coverage.ends s = (.ok c, t)) ∨ svc.coverage.ends s = (.error .abandoned, t) := by
  cases hcoverage : s.coverage with
  | some c => exact ⟨s, .inl ⟨c, ends_coverage_of_some hcoverage⟩⟩
  | none =>
    have hbuilt : Built svc s (svc.coverage.ends s) := built_coverage hcoverage
    generalize svc.coverage.ends s = out at hbuilt ⊢
    cases hbuilt with
    | failed => exact ⟨_, .inl ⟨_, rfl⟩⟩
    | kept => exact ⟨_, .inl ⟨_, rfl⟩⟩
    | abandoned => exact ⟨_, .inr rfl⟩

end Service

end QueryGate
