import QueryGate.Proofs.Service.Serving

set_option relaxedAutoImplicit false
set_option autoImplicit false

/-!
# What a fresh answer is made of

An answer that is not taken from the cache is made of the rows that the engine has for one
statement. Which statement that is depends on the request and on the coverage alone, and the
coverage is the one that is there in the end, or an empty one if there is none.

## Main definitions

* `QueryGate.Service.answerBy?` — the answer to a call by a coverage, for an engine that has its
  rows for every statement.
* `QueryGate.Service.Steady` — what such an engine does between two states.

## Main results

* `QueryGate.Service.eq_of_freshAnswer` — a fresh answer is that by the coverage in the end.
* `QueryGate.Service.answerBy?_of_miss` — so is the answer to a call for which none is kept.

## Implementation notes

The engine may fail or stay silent at any statement, and its rows for a statement may be any. They
have to be the same whenever it gives them.
-/

namespace QueryGate.Service

open Session ToolCall

variable {svc : Service} {s t : State} {engine : Sent → RowSet} {d : Dataset}

/-! ## A steady engine -/

/-- The reply that a statement gets before which `n` others are sent. -/
def State.replyAfter (s : State) (n : Nat) : EngineReply := s.replies.getD n (.rows ⟨[], []⟩)

/-- The statements sent from one state to another, in order. -/
def sentSince (s t : State) : List Sent :=
  (t.sent.take (t.sent.length - s.sent.length)).reverse

/-- From one state to another every statement that got rows got those that the engine has for
it. -/
def Steady (engine : Sent → RowSet) (s t : State) : Prop :=
  ∀ n x rows, (sentSince s t)[n]? = some x → s.replyAfter n = .rows rows → rows = engine x

/-- The statements sent since are those that are new on record. -/
lemma sentSince_of_append {more : List Sent} (h : t.sent = more ++ s.sent) :
    sentSince s t = more.reverse := by
  rw [sentSince, h, List.length_append, Nat.add_sub_cancel, List.take_left]

/-- A statement that has rows was sent, and they are the next reply. It leaves the coverage
alone. -/
lemma runStatement_eq_ok {st : Statement} {rows : RowSet}
    (h : (svc.runStatement d st).ends s = (.ok rows, t)) :
    s.reply = .rows rows ∧ t.sent = ⟨d.storage, st⟩ :: s.sent ∧ t.coverage = s.coverage := by
  cases harrive : s.breaker.arrive svc.breaker s.now with
  | refused after =>
    rw [runStatement, ends_bind_ok (ends_get s), harrive] at h
    exact absurd h error_ne_ok
  | admitted trial b =>
    rw [runStatement, ends_bind_ok (ends_get s), harrive] at h
    dsimp only at h
    cases hreply : s.reply with
    | rows found =>
      rw [hreply] at h
      obtain ⟨hfound, rfl⟩ := Prod.mk.inj h
      obtain rfl := Except.ok.inj hfound
      exact ⟨rfl, rfl, rfl⟩
    | fault fault =>
      rw [hreply] at h
      exact absurd h error_ne_ok
    | silence =>
      rw [hreply] at h
      exact absurd h error_ne_ok

/-- After some statements the next reply is that which they have left. -/
lemma replyAfter_eq_reply {n : Nat} (h : t.replies = s.replies.drop n) :
    s.replyAfter n = t.reply := by
  rw [State.replyAfter, State.reply, h, List.getD_eq_getElem?_getD, ← List.head?_drop]
  cases s.replies.drop n <;> rfl

/-! ## Fresh answers -/

/-- The answer to some filters within a dataset, by the statement that is built of them. -/
def freshAnswer (svc : Service) (d : Dataset) (filters : List ColumnFilter)
    (build : List ColumnFilter → Except Failure Statement) (more : List (String × Json)) :
    Session Json := do
  let (filters, resolutions) ← svc.substitute filters
  let statement ← Session.ofExcept (build filters)
  let rows ← svc.runStatement d statement
  return rowsAnswer d rows more resolutions

/-- The statement of a query with other filters. -/
def queryWith (svc : Service) (d : Dataset) (q : Query) (filters : List ColumnFilter) :
    Except Failure Statement :=
  Query.statement d.storage.table { q with filters } svc.reader

/-- The statement of a comparison with other filters. -/
def comparisonWith (svc : Service) (d : Dataset) (c : Comparison) (filters : List ColumnFilter) :
    Except Failure Statement :=
  Comparison.statement d.storage.table { c with filters } svc.reader

/-- The years of a comparison, as its answer tells them. -/
def yearsOf (c : Comparison) : List (String × Json) :=
  [("base_year", .int c.baseYear), ("compare_year", .int c.compareYear)]

/-- A query is answered by its statement. -/
lemma freshRows_eq (d : Dataset) (q : Query) :
    svc.freshRows d q = svc.freshAnswer d q.filters (svc.queryWith d q) [] := rfl

/-- A comparison is answered by its statement. -/
lemma freshComparison_eq (d : Dataset) (c : Comparison) :
    svc.freshComparison d c = svc.freshAnswer d c.filters (svc.comparisonWith d c) (yearsOf c) := rfl

/-- The answer to some filters within a dataset by a coverage: the names of places are resolved, and
the statement gets the rows that the engine has for it. -/
def filtersBy? (svc : Service) (engine : Sent → RowSet) (c : Coverage) (d : Dataset)
    (filters : List ColumnFilter) (build : List ColumnFilter → Except Failure Statement)
    (more : List (String × Json)) : Option Json :=
  let (filters, resolutions) := svc.resolver.substitute c filters
  (build filters).toOption.map fun st =>
    rowsAnswer d (engine ⟨d.storage, st⟩) more resolutions

/-- The answer to a query or a comparison by a coverage, if it gets a statement. -/
def answerBy? (svc : Service) (engine : Sent → RowSet) (c : Coverage) : ToolCall → Option Json
  | .query r => do
    let d ← (svc.catalog.get r.fileId).toOption
    let q ← (r.check svc.limits).toOption
    svc.filtersBy? engine c d q.filters (svc.queryWith d q) []
  | .comparison r => do
    let d ← (svc.catalog.get r.fileId).toOption
    let checked ← (r.check svc.limits).toOption
    let asked ← checked
    svc.filtersBy? engine c d asked.filters (svc.comparisonWith d asked) (yearsOf asked)
  | _ => none

/-- The answer to a query that is accepted. -/
lemma answerBy?_query {r : QueryRequest} {q : Query} (hd : svc.catalog.get r.fileId = .ok d)
    (hq : r.check svc.limits = .ok q) (c : Coverage) :
    svc.answerBy? engine c (.query r) =
      svc.filtersBy? engine c d q.filters (svc.queryWith d q) [] := by
  simp only [answerBy?, hd, hq, Except.toOption, Option.bind_eq_bind, Option.bind_some]

/-- The answer to a comparison that is accepted. -/
lemma answerBy?_comparison {r : ComparisonRequest} {asked : Comparison}
    (hd : svc.catalog.get r.fileId = .ok d) (hc : r.check svc.limits = .ok (some asked))
    (c : Coverage) :
    svc.answerBy? engine c (.comparison r) =
      svc.filtersBy? engine c d asked.filters (svc.comparisonWith d asked) (yearsOf asked) := by
  simp only [answerBy?, hd, hc, Except.toOption, Option.bind_eq_bind, Option.bind_some]

/-- A condition without texts is left as it is, whatever texts are replaced by. -/
lemma Condition.mapTexts_of_texts (g : String → String) {c : Condition} (h : c.texts = []) :
    c.mapTexts g = c := by
  have hliteral : ∀ l : Literal, l.text? = none → l.mapText g = l := by
    intro l hl
    cases l with
    | text s => exact absurd hl nofun
    | _ => rfl
  cases c with
  | scalar value =>
    rw [Condition.mapTexts, hliteral value (by simpa [Condition.texts] using h)]
  | inSet values =>
    rw [Condition.texts, List.filterMap_eq_nil_iff] at h
    rw [Condition.mapTexts, List.map_congr_left fun l hl => hliteral l (h l hl), List.map_id']
  | _ => rfl

/-- Filters without places are left as they are by any coverage. -/
lemma substitute_of_not (resolver : Resolver) (c : Coverage) {filters : List ColumnFilter}
    (h : filters.any ColumnFilter.namesPlaces = false) :
    resolver.substitute c filters = (filters, []) := by
  have hfilter : ∀ f ∈ filters, resolver.substituteFilter c f = f ∧
      resolver.unresolvedIn c f = [] := by
    intro f hf
    have hnot : f.namesPlaces = false := by
      rw [List.any_eq_false] at h
      simpa using h f hf
    unfold Resolver.substituteFilter Resolver.unresolvedIn
    cases hlevel : Level.ofColumn? f.column.text with
    | none => exact ⟨rfl, rfl⟩
    | some level =>
      have htexts : f.texts = [] := by simpa [ColumnFilter.namesPlaces, hlevel] using hnot
      have hconditions : ∀ x ∈ f.conditions, x.mapTexts (resolver.replacement c level) = x :=
        fun x hx => Condition.mapTexts_of_texts _ (List.flatMap_eq_nil_iff.mp htexts x hx)
      dsimp only
      rw [htexts, ColumnFilter.mapTexts, List.map_congr_left hconditions, List.map_id']
      exact ⟨rfl, rfl⟩
  unfold Resolver.substitute
  rw [List.map_congr_left fun f hf => (hfilter f hf).1, List.map_id',
    List.flatMap_eq_nil_iff.mpr fun f hf => (hfilter f hf).2]

/-- The coverage that is had is the one that is there then, or an empty one if there is none. -/
lemma eq_of_coverage {c : Coverage} (h : svc.coverage.ends s = (.ok c, t)) :
    c = t.coverage.getD .empty := by
  cases hcoverage : s.coverage with
  | some c' =>
    rw [ends_coverage_of_some hcoverage] at h
    obtain ⟨hc, rfl⟩ := Prod.mk.inj h
    rw [← Except.ok.inj hc, hcoverage]
    rfl
  | none =>
    have hnone : SameCoverage s _ :=
      Leaves.foldlM (leaves_loadColumn svc) (coverageColumns svc.catalog) {} s
    rw [ends_coverage_of_none svc hcoverage] at h
    rcases hload : ((coverageColumns svc.catalog).foldlM (loadColumn svc) {}).ends s with
      ⟨halt | building, u⟩ <;> rw [hload] at h hnone
    · exact absurd h error_ne_ok
    · obtain ⟨hc, rfl⟩ := Prod.mk.inj h
      rw [← Except.ok.inj hc]
      dsimp only [Building.finish]
      split_ifs
      · rw [show u.coverage = none from hnone.trans hcoverage]
        rfl
      · rfl

/-- Filters are resolved by the coverage that is there then, or by an empty one. -/
lemma eq_of_substitute {filters : List ColumnFilter}
    {resolved : List ColumnFilter × List Resolution}
    (h : (svc.substitute filters).ends s = (.ok resolved, t)) :
    resolved = svc.resolver.substitute (t.coverage.getD .empty) filters := by
  cases hnames : filters.any ColumnFilter.namesPlaces with
  | false =>
    rw [ends_substitute_of_not hnames] at h
    obtain ⟨hresolved, rfl⟩ := Prod.mk.inj h
    rw [substitute_of_not _ _ hnames, ← Except.ok.inj hresolved]
  | true =>
    rw [ends_substitute hnames] at h
    rcases hcoverage : svc.coverage.ends s with ⟨halt | c, u⟩ <;> rw [hcoverage] at h
    · exact absurd h error_ne_ok
    · obtain ⟨hresolved, rfl⟩ := Prod.mk.inj h
      rw [← Except.ok.inj hresolved, eq_of_coverage hcoverage]

/-- **A fresh answer is that by the coverage in the end**, or by an empty one if there is none.

**Proof sketch.** The statement of the request is the last one sent. Those sent before it, for the
coverage, have used up one reply each, so that its own reply is the one after them. -/
theorem eq_of_freshAnswer {filters : List ColumnFilter}
    {build : List ColumnFilter → Except Failure Statement} {more : List (String × Json)} {v : Json}
    (h : (svc.freshAnswer d filters build more).ends s = (.ok v, t)) (hsteady : Steady engine s t) :
    svc.filtersBy? engine (t.coverage.getD .empty) d filters build more = some v := by
  obtain ⟨⟨found, resolutions⟩, t₁, hresolved, hrest⟩ := ends_bind_eq_ok h
  obtain ⟨st, t₂, hbuilt, hanswer⟩ := ends_bind_eq_ok hrest
  obtain ⟨hst, rfl⟩ := ends_ofExcept_eq_ok hbuilt
  obtain ⟨rows, t₃, hrows, hpure⟩ := ends_bind_eq_ok hanswer
  obtain ⟨hv, rfl⟩ := Prod.mk.inj hpure
  obtain ⟨hreply, hsent, hcoverage⟩ := runStatement_eq_ok hrows
  have hconsumed : Consumes s ((svc.substitute filters).ends s).2 := leaves_substitute filters s
  rw [hresolved] at hconsumed
  obtain ⟨before, hbefore, hreplies⟩ : Consumes s t₂ := hconsumed
  have hall : t₃.sent = (⟨d.storage, st⟩ :: before) ++ s.sent := by
    rw [hsent, hbefore, List.cons_append]
  have hsince : sentSince s t₃ = before.reverse ++ [⟨d.storage, st⟩] := by
    rw [sentSince_of_append hall, List.reverse_cons]
  have hlast : (sentSince s t₃)[before.length]? = some ⟨d.storage, st⟩ := by
    rw [hsince, ← List.length_reverse, List.getElem?_concat_length]
  have hengine : rows = engine ⟨d.storage, st⟩ :=
    hsteady _ _ _ hlast ((replyAfter_eq_reply hreplies).trans hreply)
  rw [filtersBy?, hcoverage, ← eq_of_substitute hresolved, ← Except.ok.inj hv, hengine]
  dsimp only
  rw [hst]
  rfl

/-! ## Calls for which no answer is kept -/

/-- What becomes of the cache does not matter for what the engine has done. -/
lemma Steady.of_eq {s' t' : State} (h : Steady engine s t) (hsent : s'.sent = s.sent)
    (hreplies : s'.replies = s.replies) (hsent' : t'.sent = t.sent) : Steady engine s' t' := by
  unfold Steady sentSince State.replyAfter at h ⊢
  rw [hsent, hreplies, hsent']
  exact h

/-- Nothing is asked of the engine for an answer that is kept. -/
lemma steady_lookedUp (key : String) : Steady engine s (lookedUp svc s key) := by
  intro n x rows hx
  have hnone : sentSince s (lookedUp svc s key) = [].reverse := sentSince_of_append rfl
  rw [hnone] at hx
  exact absurd hx nofun

/-- Where no answer is kept, the answer that is computed is given, and the rest of the state is as
computing it leaves it. -/
lemma exists_of_answered_of_miss {operation : String} {args v : Json} {compute : Session Json}
    (hmiss : kept? svc s (cacheKey operation args) = none)
    (h : ((svc.answered operation args compute).ends s).1 = .ok v) :
    ∃ t, compute.ends (lookedUp svc s (cacheKey operation args)) = (.ok v, t) ∧
      ((svc.answered operation args compute).ends s).2.sent = t.sent ∧
      ((svc.answered operation args compute).ends s).2.coverage = t.coverage := by
  rw [ends_answered_of_miss hmiss] at h ⊢
  rcases hends : compute.ends (lookedUp svc s (cacheKey operation args)) with ⟨halt | answer, t⟩ <;>
    rw [hends] at h
  · exact absurd h nofun
  · obtain rfl := Except.ok.inj h
    exact ⟨t, rfl, rfl, rfl⟩

/-- **The answer to a call for which none is kept is that by the coverage in the end**, or by an
empty one if there is none. -/
theorem answerBy?_of_miss {c : ToolCall} {key : String} {v : Json} (haccepted : svc.Accepted c key)
    (hmiss : kept? svc s key = none) (h : ((svc.runTool c).ends s).1 = .ok v)
    (hsteady : Steady engine s ((svc.runTool c).ends s).2) :
    svc.answerBy? engine (((svc.runTool c).ends s).2.coverage.getD .empty) c = some v := by
  cases haccepted with
  | @query r d q hd hq =>
    rw [runTool, ends_query hd hq] at h hsteady ⊢
    obtain ⟨t, hends, hsent, hcoverage⟩ := exists_of_answered_of_miss hmiss h
    rw [freshRows_eq] at hends
    rw [hcoverage, answerBy?_query hd hq]
    exact eq_of_freshAnswer hends (hsteady.of_eq rfl rfl hsent.symm)
  | @comparison r d asked hd hc =>
    rw [runTool, ends_compare hd hc] at h hsteady ⊢
    obtain ⟨t, hends, hsent, hcoverage⟩ := exists_of_answered_of_miss hmiss h
    rw [freshComparison_eq] at hends
    rw [hcoverage, answerBy?_comparison hd hc]
    exact eq_of_freshAnswer hends (hsteady.of_eq rfl rfl hsent.symm)

/-- Every call keeps a coverage that was there. -/
lemma keepsCoverage_runTool (svc : Service) (c : ToolCall) :
    (svc.runTool c).Leaves KeepsCoverage := by
  intro s
  have hcache : ∀ (s : State) cache, KeepsCoverage s { s with cache } := fun _ _ _ hc => hc
  by_cases haccepted : ∃ key, svc.Accepted c key
  · obtain ⟨key, h⟩ := haccepted
    cases h with
    | query hd hq =>
      rw [runTool, ends_query hd hq]
      exact leaves_answered hcache (leaves_freshRows _ _) s
    | comparison hd hc =>
      rw [runTool, ends_compare hd hc]
      exact leaves_answered hcache (leaves_freshComparison _ _) s
  · exact leaves_runTool_of_not_accepted (not_exists.mp haccepted) s

end QueryGate.Service
