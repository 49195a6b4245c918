import Mathlib.Data.List.Nodup
import QueryGate.Proofs.Request.Guarantee
import QueryGate.Proofs.Request.Reordering
import QueryGate.Proofs.Sql.Clauses
import QueryGate.Proofs.Sql.Label
import QueryGate.Proofs.Sql.Places
import QueryGate.Proofs.Sql.Reading.Texts

set_option relaxedAutoImplicit false
set_option autoImplicit false

/-!
# Statements up to the order of keys

Two requests that are equal up to the order of the keys in their objects are both refused, or get
statements that differ in the order of what is shown and of the conditions, and in nothing else.
Every condition keeps its own literals.

## Main definitions

* `QueryGate.Sql.Reader.TakesOwn` — a reader that takes every text of a request for one query.
* `QueryGate.QueryRequest.Builds`, `QueryGate.ComparisonRequest.Builds` — a request gets a
  statement.
* `QueryGate.QueryRequest.SameMeaning`, `QueryGate.ComparisonRequest.SameMeaning` — two requests
  get statements that mean the same.

## Main results

* `QueryGate.Plan.Reordered.remap`, `QueryGate.Plan.Reordered.expression` — references mean the
  same in any order of aggregations.
* `QueryGate.Query.Reordered.clauses` — queries have the same clauses in any order.
* `QueryGate.Sql.Reader.TakesBuilt.takesOwn` — a reader that takes the texts put together here takes
  those of requests.
* `QueryGate.statements_of_reordered` — requests that are equal up to the order of keys mean the
  same.
-/

namespace QueryGate

open Sql Outcome

/-! ## Plans -/

namespace Plan

/-- Two plans that are equal up to the order of their values, which have columns and names of their
own. -/
structure Reordered (p p' : Plan) : Prop where
  /-- The columns shown as they are. -/
  plain : p.plain = p'.plain
  /-- The values shown. -/
  aggregates : p.aggregates.Perm p'.aggregates
  /-- The columns grouped by. -/
  groupBy : p.groupBy = p'.groupBy
  /-- No two values are of one column. -/
  sources : ∀ a ∈ p.aggregates, ∀ b ∈ p.aggregates, a.source = b.source → a = b
  /-- No two values have one name. -/
  labels : ∀ a ∈ p.aggregates, ∀ b ∈ p.aggregates, a.label = b.label → a = b

/-- **Plans are equal up to the order of aggregations**, if no column is aggregated twice. -/
theorem build_agree {aggregations aggregations' : List (Ident × Aggregator)}
    (select groupBy : List Ident) (h : aggregations.Perm aggregations')
    (hnodup : (aggregations.map (·.1)).Nodup) :
    Agree Reordered (build aggregations select groupBy) (build aggregations' select groupBy) := by
  have hsource : isSource aggregations = isSource aggregations' := by
    funext c
    rw [Bool.eq_iff_iff, isSource_iff, isSource_iff]
    simp only [h.mem_iff]
  have hmade := Agree.mapM_perm (fun a => Aggregate.make a.1 a.2) h
  unfold build
  rw [hsource]
  refine hmade.bind_of_ok fun made made' hok _ hperm => ?_
  dsimp only
  split_ifs
  · exact .error _ _
  refine .ok ⟨rfl, hperm, rfl, fun a ha b hb hab => ?_, fun a ha b hb hab => ?_⟩
  · obtain ⟨c, hc, ha⟩ := (mem_of_mapM_eq_ok hok).mp ha
    obtain ⟨d, hd, hb⟩ := (mem_of_mapM_eq_ok hok).mp hb
    rw [(Aggregate.make_eq_ok ha).1, (Aggregate.make_eq_ok hb).1] at hab
    obtain rfl := List.inj_on_of_nodup_map hnodup hc hd hab
    exact Except.ok.inj (ha.symm.trans hb)
  · obtain ⟨c, -, ha⟩ := (mem_of_mapM_eq_ok hok).mp ha
    obtain ⟨d, -, hb⟩ := (mem_of_mapM_eq_ok hok).mp hb
    obtain rfl := Aggregate.eq_of_label ha hb hab
    exact Except.ok.inj (ha.symm.trans hb)

namespace Reordered

variable {p p' : Plan}

/-- A reference means the same in both. -/
theorem remap (h : p.Reordered p') (c : Ident) : p.remap c = p'.remap c := by
  have hfind : p.aggregates.find? (fun a => decide (a.source = c)) =
      p'.aggregates.find? fun a => decide (a.source = c) :=
    find?_eq_of_perm h.aggregates fun a ha b hb hac hbc =>
      h.sources a ha b hb ((of_decide_eq_true hac).trans (of_decide_eq_true hbc).symm)
  rw [Plan.remap, Plan.remap, h.groupBy, hfind]

/-- The name of an item stands for the same in both. -/
theorem expression (h : p.Reordered p') (c : Ident) : p.expression c = p'.expression c := by
  have hfind : p.aggregates.find? (fun a => decide (a.label = c)) =
      p'.aggregates.find? fun a => decide (a.label = c) :=
    find?_eq_of_perm h.aggregates fun a ha b hb hac hbc =>
      h.labels a ha b hb ((of_decide_eq_true hac).trans (of_decide_eq_true hbc).symm)
  rw [Plan.expression, Plan.expression, hfind]

/-- Both show the same items in any order. -/
lemma projection (h : p.Reordered p') : p.projection.Perm p'.projection := by
  rw [Plan.projection, Plan.projection, h.plain]
  exact (h.aggregates.map _).append_left _

/-- Sort keys mean the same in both. -/
lemma remapKeys (h : p.Reordered p') (keys : List SortKey) : p.remapKeys keys = p'.remapKeys keys :=
  List.map_congr_left fun k _ => by rw [h.remap]

/-- Conditions on groups are accepted alike, and mean the same. -/
lemma remapHaving (h : p.Reordered p') {fs gs : List ColumnFilter}
    (hfilters : Shuffled ColumnFilter.Reordered fs gs) :
    Agree (Shuffled ColumnFilter.Reordered) (p.remapHaving fs) (p'.remapHaving gs) := by
  have hlabels : ∀ c, (p.aggregates.map (·.label)).contains c =
      (p'.aggregates.map (·.label)).contains c := fun c => by
    rw [Bool.eq_iff_iff, List.contains_iff_mem, List.contains_iff_mem]
    exact (h.aggregates.map _).mem_iff
  refine Agree.mapM_shuffled (fun f g hfg => ?_) hfilters
  unfold remapFilter
  dsimp only
  rw [hfg.column, h.remap, h.groupBy, hlabels]
  split_ifs
  · exact .ok ⟨rfl, hfg.conditions⟩
  · exact .error _ _

end Reordered

end Plan

/-! ## Clauses -/

/-- Filters have the same conditions in any order, each with its literals. -/
lemma Sql.conjuncts_perm {target target' : Ident → Sql} (htarget : ∀ c, target c = target' c)
    {fs gs : List ColumnFilter} (h : Shuffled ColumnFilter.Reordered fs gs) :
    (conjuncts target fs).Perm (conjuncts target' gs) := by
  refine h.flatMap_perm fun f g hfg => ?_
  rw [hfg.column, htarget]
  exact hfg.conditions.map _

namespace Query.Reordered

variable {q q' : Query}

/-- Equal items, conditions and sort orders make equal clauses, in any order. -/
lemma withClauses (h : q.Reordered q') (table : Ident) {items items' : List Sql}
    {groups groups' : List Fragment} {orderBy orderBy' : List SortKey} (hitems : items.Perm items')
    (hgroups : groups.Perm groups') (horder : orderBy = orderBy') :
    (q.withClauses table items groups orderBy).Reordered
      (q'.withClauses table items' groups' orderBy') where
  items := hitems
  table := rfl
  rows := conjuncts_perm (fun _ => rfl) h.filters
  groupBy := h.groupBy
  groups := hgroups
  orderBy := horder
  limit := h.limit
  offset := h.offset

/-- **Queries have the same clauses in any order of what was read from objects**, if no column is
aggregated twice. -/
theorem clauses (h : q.Reordered q') (table : Ident) (hnodup : (q.aggregations.map (·.1)).Nodup) :
    Agree Clauses.Reordered (q.clauses table) (q'.clauses table) := by
  have hnone : q.aggregations.isEmpty = q'.aggregations.isEmpty := h.aggregations.isEmpty_eq
  unfold Query.clauses
  rw [hnone]
  split_ifs
  · unfold clausesPlain
    rw [h.having.isEmpty_eq, h.select]
    split_ifs
    · exact .error _ _
    · exact .ok (h.withClauses table (List.Perm.refl _) (List.Perm.refl _) h.orderBy)
    · exact .ok (h.withClauses table (List.Perm.refl _) (List.Perm.refl _) h.orderBy)
  · unfold clausesGrouped
    rw [h.select, h.groupBy, h.orderBy]
    refine (Plan.build_agree _ _ h.aggregations hnodup).bind fun p p' hp => ?_
    refine (hp.remapHaving h.having).bind fun fs gs hfg => .ok ?_
    exact h.withClauses table hp.projection (conjuncts_perm hp.expression hfg)
      (hp.remapKeys _)

end Query.Reordered

/-- The clauses of a request, as far as it is accepted. -/
def QueryRequest.clauses (limits : Limits) (table : Ident) (r : QueryRequest) :
    Except Refusal Clauses := do (← r.check limits).clauses table

/-- The columns of aggregations are the keys that they are read from. -/
lemma columns_of_readAggregation {ms : List (String × Json)} {as : List (Ident × Aggregator)}
    (h : ms.mapM readAggregation = .ok as) : (as.map (·.1)).map Ident.text = ms.map (·.1) := by
  rw [List.map_map]
  refine (map_eq_of_forall₂ (fun m a hread => ?_) (mapM_eq_ok_iff.mp h)).symm
  obtain ⟨func, hfunc⟩ := readAggregation_eq_ok hread
  simp only [readAggregation, hfunc] at hread
  obtain ⟨c, hc, hread⟩ := bind_eq_ok_iff.mp hread
  obtain ⟨f, -, hread⟩ := bind_eq_ok_iff.mp hread
  rw [← Except.ok.inj hread]
  exact (Ident.column_eq_ok_iff.mp hc).symm

/-- **Requests have the same clauses in any order of keys**, or none, if no column is aggregated
twice. -/
theorem QueryRequest.Reordered.clauses {r r' : QueryRequest} (h : r.Reordered r')
    (hnodup : (r.aggregations.map (·.1)).Nodup) (limits : Limits) (table : Ident) :
    Agree Clauses.Reordered (r.clauses limits table) (r'.clauses limits table) := by
  refine (h.check limits).bind_of_ok fun q q' hq _ hqq' => hqq'.clauses table ?_
  rw [← columns_of_readAggregation (reads_of_check hq).aggregations] at hnodup
  exact hnodup.of_map _

/-! ## Statements -/

/-- A reader that takes every text of a checked request for one query. -/
structure Sql.Reader.TakesOwn (reader : Reader) : Prop where
  /-- The texts of queries. -/
  query : ∀ {limits : Limits} {r : QueryRequest} {q : Query} {s : Query.Shown} (table : Ident),
    r.check limits = .ok q → q.shown = .ok s →
      reader (q.fragment table s).sql.render = .ok [true]
  /-- The texts of comparisons. -/
  comparison : ∀ {limits : Limits} {r : ComparisonRequest} {c : Comparison} (table : Ident),
    r.check limits = .ok (some c) → reader (c.fragment table).sql.render = .ok [true]

/-- Filters that are read can be written in the language, since a list of values is not empty. -/
lemma Sql.isWritable_of_readFilters {members : List (String × Json)} {filters : List ColumnFilter}
    (h : readFilters members = .ok filters) : IsWritable filters := by
  intro f hf hempty
  obtain ⟨hsome, -⟩ := (sound_of_readFilters h f hf).conditions _ hempty
  exact absurd hsome (by decide)

/-- A reader that takes the texts put together here for queries takes those of checked requests,
which have filters that can be written. -/
theorem Sql.Reader.TakesBuilt.takesOwn {reader : Reader} (h : reader.TakesBuilt) :
    reader.TakesOwn where
  query table hcheck hshown :=
    h.query table (isWritable_of_readFilters (QueryRequest.reads_of_check hcheck).filters)
      (isWritable_of_readFilters (QueryRequest.reads_of_check hcheck).having) hshown
  comparison table hcheck :=
    h.comparison table (isWritable_of_readFilters
      ((ComparisonRequest.topCount_and_filters_of_check hcheck).2 _ rfl))

/-- A request is accepted and gets a statement. -/
def QueryRequest.Builds (limits : Limits) (table : Ident) (reader : Reader) (r : QueryRequest)
    (st : Statement) : Prop :=
  ∃ q, r.check limits = .ok q ∧ q.statement table reader = .ok st

/-- A request to compare years is accepted and gets a statement. -/
def ComparisonRequest.Builds (limits : Limits) (table : Ident) (reader : Reader)
    (r : ComparisonRequest) (st : Statement) : Prop :=
  ∃ c, r.check limits = .ok (some c) ∧ c.statement table reader = .ok st

/-- Two requests get statements at the same time, and these have the same clauses, but for the
order of the items that they show and of the conditions that they hold rows and groups to. -/
structure QueryRequest.SameMeaning (limits : Limits) (table : Ident) (reader : Reader)
    (r r' : QueryRequest) : Prop where
  /-- Either both get a statement or none does. -/
  built : (∃ st, r.Builds limits table reader st) ↔ ∃ st, r'.Builds limits table reader st
  /-- The statements are made of the same clauses. -/
  clauses : ∀ st st', r.Builds limits table reader st → r'.Builds limits table reader st' →
    ∃ cl cl', r.clauses limits table = .ok cl ∧ r'.clauses limits table = .ok cl' ∧
      st = cl.statement ∧ st' = cl'.statement ∧ cl.Reordered cl'

/-- Two requests to compare years get statements at the same time, and these are the same, but for
the order of the conditions that they hold rows to. -/
structure ComparisonRequest.SameMeaning (limits : Limits) (table : Ident) (reader : Reader)
    (r r' : ComparisonRequest) : Prop where
  /-- Either both get a statement or none does. -/
  built : (∃ st, r.Builds limits table reader st) ↔ ∃ st, r'.Builds limits table reader st
  /-- The statements are one comparison with the same conditions on rows. -/
  clauses : ∀ st st', r.Builds limits table reader st → r'.Builds limits table reader st' →
    ∃ c c', r.check limits = .ok (some c) ∧ r'.check limits = .ok (some c') ∧
      st = c.assembled table c.rows ∧ st' = c.assembled table c'.rows ∧ c.rows.Perm c'.rows

namespace QueryRequest

variable {limits : Limits} {table : Ident} {reader : Reader} {r : QueryRequest}

/-- A statement is made of the clauses of its request. -/
lemma Builds.exists_clauses {st : Statement} (h : r.Builds limits table reader st) :
    ∃ cl, r.clauses limits table = .ok cl ∧ st = cl.statement := by
  obtain ⟨q, hq, hst⟩ := h
  rw [q.statement_eq_clauses] at hst
  obtain ⟨cl, hcl, hst⟩ := bind_eq_ok_iff.mp hst
  exact ⟨cl, bind_eq_ok_iff.mpr ⟨q, hq, mapError_eq_ok_iff.mp hcl⟩,
    Statement.verified_eq_ok (mapError_eq_ok_iff.mp hst)⟩

/-- A request with clauses gets a statement. -/
lemma exists_builds_iff (hreader : reader.TakesOwn) :
    (∃ st, r.Builds limits table reader st) ↔ ∃ cl, r.clauses limits table = .ok cl := by
  constructor
  · rintro ⟨st, h⟩
    obtain ⟨cl, hcl, -⟩ := h.exists_clauses
    exact ⟨cl, hcl⟩
  · rintro ⟨cl, h⟩
    obtain ⟨q, hq, hcl⟩ := bind_eq_ok_iff.mp h
    have hshown := q.shown_alike_clauses table
    rw [hcl] at hshown
    generalize hs : q.shown = shown at hshown
    cases hshown with
    | ok _ => exact ⟨_, q, hq, q.statement_of_taken table hs (hreader.query table hq hs)⟩

end QueryRequest

/-- An accepted request to compare years gets a statement. -/
lemma ComparisonRequest.exists_builds_iff {limits : Limits} {table : Ident} {reader : Reader}
    {r : ComparisonRequest} (hreader : reader.TakesOwn) :
    (∃ st, r.Builds limits table reader st) ↔ ∃ c, r.check limits = .ok (some c) := by
  constructor
  · rintro ⟨st, c, hc, -⟩
    exact ⟨c, hc⟩
  · rintro ⟨c, hc⟩
    exact ⟨_, c, hc, c.statement_of_taken table (hreader.comparison table hc)⟩

/-- Of two requests to compare years that are equal up to the order of keys, one is accepted exactly
when the other is. -/
lemma ComparisonRequest.Reordered.exists_check_iff {r r' : ComparisonRequest} (h : r.Reordered r')
    (limits : Limits) :
    (∃ c, r.check limits = .ok (some c)) ↔ ∃ c, r'.check limits = .ok (some c) := by
  have hagree := h.check limits
  generalize r.check limits = x at hagree
  generalize r'.check limits = x' at hagree
  cases hagree with
  | error e e' => exact ⟨fun h => absurd h.choose_spec nofun, fun h => absurd h.choose_spec nofun⟩
  | ok hchecked =>
    cases hchecked with
    | none => exact ⟨fun h => absurd h.choose_spec nofun, fun h => absurd h.choose_spec nofun⟩
    | some _ => exact ⟨fun _ => ⟨_, rfl⟩, fun _ => ⟨_, rfl⟩⟩

/-- A comparison's statement holds rows to its own conditions. -/
lemma Comparison.statement_eq_assembled {table : Ident} {reader : Reader} {c : Comparison}
    {st : Statement} (h : c.statement table reader = .ok st) : st = c.assembled table c.rows := by
  obtain ⟨hsql, hparams⟩ := c.fragment_eq_assembled table
  rw [statement_eq_ok h, hsql, hparams]

/-- Comparisons that are equal up to the order of filters differ in their conditions alone. -/
lemma Comparison.Reordered.assembled {c c' : Comparison} (h : c.Reordered c') (table : Ident)
    (rows : List Fragment) : c.assembled table rows = c'.assembled table rows := by
  unfold Comparison.assembled opening pairing ranking
  rw [h.keyColumn, h.valueColumn, h.yearColumn, h.baseYear, h.compareYear, h.topCount, h.direction]

/-- **The order of keys does not change what a request means.** Of two requests that are equal up
to the order of the keys in their objects, one is accepted and gets a statement exactly when the
other does, for all limits, for every table, and whatever reader takes such statements for queries.
The two statements have the same table, grouping, sort order and bounds. They show the same items,
and hold rows and groups to the same conditions, each with the same literals; only the order may
differ. So it is with two requests to compare years.

**Proof sketch.** A query is taken apart into its clauses, and its statement is put together from
them (`Builds.exists_clauses`). Each part of a request is read member by member, so that another
order of keys gives the same members in another order, and clauses that are equal up to that order
(`QueryRequest.Reordered.clauses`). Since the reader takes what the builders put together, there is
a statement just if there are clauses (`QueryRequest.exists_builds_iff`). -/
theorem statements_of_reordered (limits : Limits) (table : Ident) {reader : Reader}
    (hreader : reader.TakesOwn) :
    (∀ r r' : QueryRequest, r.Reordered r' → (r.aggregations.map (·.1)).Nodup →
      r.SameMeaning limits table reader r') ∧
    ∀ r r' : ComparisonRequest, r.Reordered r' → r.SameMeaning limits table reader r' := by
  constructor
  · intro r r' h hnodup
    have hagree := h.clauses hnodup limits table
    refine ⟨?_, fun st st' hst hst' => ?_⟩
    · rw [QueryRequest.exists_builds_iff hreader, QueryRequest.exists_builds_iff hreader]
      exact hagree.isOk_iff
    · obtain ⟨cl, hcl, hmade⟩ := hst.exists_clauses
      obtain ⟨cl', hcl', hmade'⟩ := hst'.exists_clauses
      exact ⟨cl, cl', hcl, hcl', hmade, hmade', hagree.of_eq_ok hcl hcl'⟩
  · intro r r' h
    refine ⟨?_, fun st st' ⟨c, hc, hst⟩ ⟨c', hc', hst'⟩ => ?_⟩
    · rw [ComparisonRequest.exists_builds_iff hreader, ComparisonRequest.exists_builds_iff hreader]
      exact h.exists_check_iff limits
    · have hchecked := (h.check limits).of_eq_ok hc hc'
      cases hchecked with
      | some hcc' =>
        refine ⟨c, c', hc, hc', c.statement_eq_assembled hst, ?_,
          conjuncts_perm (fun _ => rfl) hcc'.filters⟩
        rw [hcc'.assembled]
        exact c'.statement_eq_assembled hst'

/-- Two conditions on rows, one of them with two operators. -/
def recentGermany : List (String × Json) :=
  [("year", .obj [("gte", .int 2015), ("lte", .int 2022)]), ("country", .str "Germany")]

/-- The same conditions with the keys of both objects in the other order. -/
def germanyRecent : List (String × Json) :=
  [("country", .str "Germany"), ("year", .obj [("lte", .int 2022), ("gte", .int 2015)])]

/-- A request with two values per sector and a condition on each. -/
def sectorRequest : QueryRequest where
  fileId := "power-sector-year"
  select := ["sector"]
  filters := recentGermany
  groupBy := ["sector"]
  orderBy := .one "-tonnes"
  aggregations := [("tonnes", .str "sum"), ("plants", .str "count")]
  having := [("tonnes", .obj [("gt", .int 10)]), ("plants", .obj [("gt", .int 1)])]

/-- The same request with the keys of all objects in the other order. -/
def sectorRequestTurned : QueryRequest :=
  { sectorRequest with
    filters := germanyRecent
    aggregations := [("plants", .str "count"), ("tonnes", .str "sum")]
    having := [("plants", .obj [("gt", .int 1)]), ("tonnes", .obj [("gt", .int 10)])] }

/-- A request to compare two years. -/
def yearsRequest : ComparisonRequest where
  fileId := "power-sector-year"
  filters := recentGermany
  keyColumn := "sector"
  valueColumn := "tonnes"
  baseYear := 2015
  compareYear := 2022

/-- The conditions are equal up to the order of keys. -/
lemma same_recentGermany : Json.Same (.obj recentGermany) (.obj germanyRecent) := by
  have hyears : Json.Same (.obj [("gte", .int 2015), ("lte", .int 2022)])
      (.obj [("lte", .int 2022), ("gte", .int 2015)]) :=
    .obj (.swap ..) rfl (.cons (.number rfl rfl rfl) (.cons (.number rfl rfl rfl) .nil))
  exact .obj (.swap ..) rfl (.cons hyears (.cons (.str "Germany") .nil))

/-- The two requests for sectors get statements that mean the same, and so do those to compare two
years. -/
theorem statements_of_reordered_sector :
    Reader.TakesOwn grammatical ∧
      sectorRequest.Reordered sectorRequestTurned ∧
      (sectorRequest.aggregations.map (·.1)).Nodup ∧
      sectorRequest.SameMeaning {} emissionsTable grammatical sectorRequestTurned ∧
      (∃ st, sectorRequestTurned.Builds {} emissionsTable grammatical st) ∧
      yearsRequest.SameMeaning {} emissionsTable grammatical
        { yearsRequest with filters := germanyRecent } := by
  have hover : ∀ n, Json.Same (.obj [("gt", .int n)]) (.obj [("gt", .int n)]) :=
    fun n => .obj (.refl _) rfl (.cons (.number rfl rfl rfl) .nil)
  have hturned : sectorRequest.Reordered sectorRequestTurned := {
    fileId := rfl
    select := rfl
    filters := same_recentGermany
    groupBy := rfl
    orderBy := rfl
    limit := rfl
    offset := rfl
    aggregations := .obj (.swap ..) rfl (.cons (.str "sum") (.cons (.str "count") .nil))
    having := .obj (.swap ..) rfl (.cons (hover 10) (.cons (hover 1) .nil)) }
  have hnodup : (sectorRequest.aggregations.map (·.1)).Nodup := by decide
  obtain ⟨hqueries, hcomparisons⟩ :=
    statements_of_reordered {} emissionsTable takesBuilt_grammatical.takesOwn
  have hmeaning := hqueries _ _ hturned hnodup
  have hbuilt : ∃ st, sectorRequest.Builds {} emissionsTable grammatical st :=
    (QueryRequest.exists_builds_iff takesBuilt_grammatical.takesOwn).mpr ⟨_, rfl⟩
  refine ⟨takesBuilt_grammatical.takesOwn, hturned, hnodup, hmeaning, hmeaning.built.mp hbuilt, ?_⟩
  exact hcomparisons _ _ ⟨rfl, same_recentGermany, rfl, rfl, rfl, rfl, rfl, rfl, rfl⟩

end QueryGate
