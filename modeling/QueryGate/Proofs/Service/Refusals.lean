import QueryGate.Proofs.Request.KeyOrder
import QueryGate.Proofs.Service.Reached
import QueryGate.Proofs.Sql.Reading.Texts

set_option relaxedAutoImplicit false
set_option autoImplicit false

/-!
# Refused requests

A request is refused by its check, or later for what it would show. In between its places are
resolved, which may build the coverage: a request that is refused in the end may have sent
statements to the engine and opened the breaker.

## Main definitions

* `QueryGate.QueryRequest.refusal?` — why a request cannot be turned into a statement.
* `QueryGate.Service.Contained` — a refused request does nothing but give its answer.
* `QueryGate.Service.PlacesAskedFirst`, `QueryGate.Service.TakenForAnother` — the two ways in which
  it does more, or less.

## Main results

* `QueryGate.Service.contained_iff` — there are no other ways.
-/

namespace QueryGate

/-- Why a request cannot be turned into a statement, if it cannot: it is refused by its check, or
for what it would show. -/
def QueryRequest.refusal? (limits : Limits) (r : QueryRequest) : Option Refusal :=
  match r.check limits with
  | .error refusal => some refusal
  | .ok q =>
    match q.shown with
    | .error refusal => some refusal
    | .ok _ => none

/-- A refused request is refused by its check or for what it would show. -/
lemma QueryRequest.refusal?_eq_some {limits : Limits} {r : QueryRequest} {refusal : Refusal}
    (h : r.refusal? limits = some refusal) :
    r.check limits = .error refusal ∨ ∃ q, r.check limits = .ok q ∧ q.shown = .error refusal := by
  unfold refusal? at h
  cases hcheck : r.check limits with
  | error e =>
    rw [hcheck] at h
    exact Or.inl (congrArg Except.error (Option.some.inj h))
  | ok q =>
    rw [hcheck] at h
    dsimp only at h
    cases hshown : q.shown with
    | error e =>
      rw [hshown] at h
      exact Or.inr ⟨q, rfl, hshown.trans (congrArg Except.error (Option.some.inj h))⟩
    | ok shown =>
      rw [hshown] at h
      exact absurd h nofun

namespace Service

open Session

variable {svc : Service} {past : List ToolCall} {s : State} {r : QueryRequest} {d : Dataset}
  {q : Query} {refusal : Refusal}

/-! ## What refused requests do -/

/-- A refused request does nothing but give its answer: its caller is told of the refusal as of a
bad request, no statement is sent, and the breaker is as before. -/
structure Contained (svc : Service) (r : QueryRequest) (refusal : Refusal) (s : State) : Prop where
  /-- The caller is told of the refusal. -/
  told : ((svc.query r).ends s).1 = .error (.failed refusal.failure)
  /-- It counts as a bad request. -/
  invalid : refusal.failure.code = .validation
  /-- No statement is sent. -/
  unsent : ((svc.query r).ends s).2.sent = s.sent
  /-- The breaker is as before. -/
  undisturbed : ((svc.query r).ends s).2.breaker = s.breaker

/-- A checked request names a place, and asking for the coverage would send a statement. -/
def PlacesAskedFirst (svc : Service) (r : QueryRequest) (s : State) : Prop :=
  ∃ q, r.check svc.limits = .ok q ∧ q.filters.any ColumnFilter.namesPlaces = true ∧
    BuildsCoverage svc s

/-- A checked request is taken for another query, made before and written otherwise: their keys are
the same, and an answer is kept under this key. -/
def TakenForAnother (svc : Service) (past : List ToolCall) (r : QueryRequest) (s : State) : Prop :=
  (∃ q, r.check svc.limits = .ok q) ∧
  (∃ hit, kept? svc s (cacheKey "query" r.toJson) = some hit) ∧
  ∃ r', .query r' ∈ past ∧ cacheKey "query" r'.toJson = cacheKey "query" r.toJson ∧
    cachePreimage "query" r'.toJson ≠ cachePreimage "query" r.toJson

/-- A request that is refused by its check is contained. -/
lemma contained_of_check (hd : svc.catalog.get r.fileId = .ok d)
    (h : r.check svc.limits = .error refusal) : Contained svc r refusal s := by
  have hends := ends_query_of_refused (s := s) hd h
  exact ⟨by rw [hends], rfl, by rw [hends], by rw [hends]⟩

/-! ## Requests refused for what they would show -/

/-- Where the query is refused for what it would show, its places are resolved and then it is
refused. -/
lemma ends_freshRows_of_refused (h : q.shown = .error refusal) :
    (svc.freshRows d q).ends s =
      match (svc.substitute q.filters).ends s with
      | (.ok _, t) => (.error (.failed refusal.failure), t)
      | (.error halt, t) => (.error halt, t) := by
  rw [freshRows, ends_bind]
  rcases (svc.substitute q.filters).ends s with ⟨halt | ⟨filters, resolutions⟩, t⟩
  · rfl
  · have hshown : ({ q with filters } : Query).shown = .error refusal := h
    dsimp only
    rw [Query.statement_of_refused _ hshown]
    exact ends_bind_error (ends_ofExcept_error refusal.failure t) _

/-- Places are resolved quietly, unless the coverage has to be asked for and would send a
statement. -/
lemma substitute_quiet {filters : List ColumnFilter}
    (h : filters.any ColumnFilter.namesPlaces = true → ¬BuildsCoverage svc s) :
    ∃ resolved t, (svc.substitute filters).ends s = (.ok resolved, t) ∧ t.sent = s.sent ∧
      t.breaker = s.breaker := by
  cases hnames : filters.any ColumnFilter.namesPlaces with
  | false => exact ⟨_, s, ends_substitute_of_not hnames, rfl, rfl⟩
  | true =>
    obtain ⟨c, t, hends, hsent, hbreaker⟩ := coverage_quiet (h hnames)
    exact ⟨_, t, by rw [ends_substitute hnames, hends], hsent, hbreaker⟩

/-- Resolving places sends a statement if the coverage has to be asked for and would send one. -/
lemma substitute_builds {filters : List ColumnFilter}
    (hnames : filters.any ColumnFilter.namesPlaces = true) (h : BuildsCoverage svc s) :
    ∃ x, x :: s.sent <:+ ((svc.substitute filters).ends s).2.sent := by
  obtain ⟨x, hx⟩ := coverage_builds h
  refine ⟨x, ?_⟩
  rw [ends_substitute hnames]
  rcases hends : svc.coverage.ends s with ⟨halt | c, t⟩ <;> rw [hends] at hx <;> exact hx

/-- A request without a kept answer that asks for no statement about places is contained. -/
lemma contained_of_miss (hd : svc.catalog.get r.fileId = .ok d) (hq : r.check svc.limits = .ok q)
    (hshown : q.shown = .error refusal)
    (hmiss : kept? svc s (cacheKey "query" r.toJson) = none)
    (hplaces : ¬PlacesAskedFirst svc r s) : Contained svc r refusal s := by
  -- Looking into the cache changes nothing that the coverage depends on.
  have hquiet : q.filters.any ColumnFilter.namesPlaces = true →
      ¬BuildsCoverage svc (lookedUp svc s (cacheKey "query" r.toJson)) :=
    fun hnames hbuilds => hplaces ⟨q, hq, hnames, hbuilds⟩
  obtain ⟨resolved, t, hresolved, hsent, hbreaker⟩ := substitute_quiet hquiet
  have hends : (svc.query r).ends s = (.error (.failed refusal.failure), t) := by
    rw [ends_query hd hq, ends_answered_of_miss hmiss, ends_freshRows_of_refused hshown, hresolved]
  exact ⟨by rw [hends], rfl, by rw [hends, hsent]; rfl, by rw [hends, hbreaker]; rfl⟩

/-- A request without a kept answer that asks for places first sends a statement. -/
lemma sent_of_miss (hd : svc.catalog.get r.fileId = .ok d) (hq : r.check svc.limits = .ok q)
    (hshown : q.shown = .error refusal)
    (hmiss : kept? svc s (cacheKey "query" r.toJson) = none)
    (hplaces : PlacesAskedFirst svc r s) :
    ∃ x, x :: s.sent <:+ ((svc.query r).ends s).2.sent := by
  obtain ⟨q', hq', hnames, hbuilds⟩ := hplaces
  obtain rfl : q = q' := Except.ok.inj (hq.symm.trans hq')
  have hbuilds : BuildsCoverage svc (lookedUp svc s (cacheKey "query" r.toJson)) := hbuilds
  obtain ⟨x, hx⟩ := substitute_builds hnames hbuilds
  refine ⟨x, ?_⟩
  rw [ends_query hd hq, ends_answered_of_miss hmiss, ends_freshRows_of_refused hshown]
  rcases hends : (svc.substitute q.filters).ends (lookedUp svc s (cacheKey "query" r.toJson)) with
    ⟨halt | resolved, t⟩ <;> rw [hends] at hx <;> exact hx

/-- A request with a kept answer is given it, and is not told of any refusal. -/
lemma told_of_hit (hd : svc.catalog.get r.fileId = .ok d) (hq : r.check svc.limits = .ok q)
    {hit : Json} (hhit : kept? svc s (cacheKey "query" r.toJson) = some hit) :
    ((svc.query r).ends s).1 = .ok hit := by
  rw [ends_query hd hq, ends_answered_of_hit hhit]

/-- An answer that is kept for a request refused for what it would show is that of another query:
no query that can be shown is written as this one is, but for the order of keys. -/
lemma takenForAnother_of_hit (h : svc.Reached past s) (hq : r.check svc.limits = .ok q)
    (hshown : q.shown = .error refusal) {hit : Json}
    (hhit : kept? svc s (cacheKey "query" r.toJson) = some hit) :
    TakenForAnother svc past r s := by
  obtain ⟨e, he, hkey, -⟩ := Cache.exists_entry_of_get hhit
  refine ⟨⟨q, hq⟩, ⟨hit, hhit⟩, ?_⟩
  cases h.origin e he with
  | comparison r' _ horigin =>
    exact absurd (hkey.symm.trans horigin) (cacheKey_query_ne_yoy _ _)
  | query r' q' hpast horigin hq' hshow =>
    refine ⟨r', hpast, horigin.symm.trans hkey, fun hpreimage => ?_⟩
    have hcanonical : r'.toJson.canonical = r.toJson.canonical := by
      simpa [cachePreimage] using hpreimage
    have halike : r.Alike r' := QueryRequest.alike_of_canonical hcanonical.symm
    have hshowable : q.Showable := halike.showable (QueryRequest.reads_of_check hq)
      (QueryRequest.reads_of_check hq') hshow
    obtain ⟨shown, hok⟩ := q.shown_isOk_iff.mpr hshowable
    rw [hshown] at hok
    exact absurd hok nofun

/-- **A refused request is contained exactly when it asks for no statement about places and is not
taken for another request.** Whatever calls a service has answered before, a request for one of its
datasets that is refused — by its check, or for what it would show — is answered with the refusal,
sends nothing to the engine and leaves the breaker alone. There are two exceptions, for requests
that pass their check: one that names a place while the coverage is not there yet builds it first,
through the breaker; and one whose key is that of an earlier query is given the answer to that
query.

**Proof sketch.** A request that fails its check does not come to the cache or the engine. One that
passes looks into the cache first. What it finds there is the answer to another query, since its own
never had one (`takenForAnother_of_hit`). When it finds nothing, its places are resolved before its
statement is refused: that sends a statement just if the coverage has to be built (`sent_of_miss`,
`contained_of_miss`). -/
theorem contained_iff (h : svc.Reached past s) (hd : svc.catalog.get r.fileId = .ok d)
    (hrefusal : r.refusal? svc.limits = some refusal) :
    Contained svc r refusal s ↔
      ¬PlacesAskedFirst svc r s ∧ ¬TakenForAnother svc past r s := by
  rcases QueryRequest.refusal?_eq_some hrefusal with hcheck | ⟨q, hq, hshown⟩
  · have hunchecked : ∀ q, r.check svc.limits ≠ .ok q := by
      intro q hq
      rw [hcheck] at hq
      exact absurd hq nofun
    exact ⟨fun _ => ⟨fun ⟨q, hq, _⟩ => hunchecked q hq, fun ⟨⟨q, hq⟩, _⟩ => hunchecked q hq⟩,
      fun _ => contained_of_check hd hcheck⟩
  · cases hkept : kept? svc s (cacheKey "query" r.toJson) with
    | some hit =>
      constructor
      · intro hcontained
        have htold := hcontained.told
        rw [told_of_hit hd hq hkept] at htold
        exact absurd htold nofun
      · rintro ⟨-, htaken⟩
        exact absurd (takenForAnother_of_hit h hq hshown hkept) htaken
    | none =>
      constructor
      · refine fun hcontained => ⟨fun hplaces => ?_, fun htaken => ?_⟩
        · obtain ⟨x, hx⟩ := sent_of_miss hd hq hshown hkept hplaces
          rw [hcontained.unsent] at hx
          exact absurd hx.length_le (by simp)
        · obtain ⟨hit, hhit⟩ := htaken.2.1
          rw [hkept] at hhit
          exact absurd hhit nofun
      · rintro ⟨hplaces, -⟩
        exact contained_of_miss hd hq hshown hkept hplaces

/-- A dataset with a column of countries. -/
def powerDataset : Dataset where
  fileId := "power-country-year"
  description := none
  storage := ⟨"data/power.duckdb", ⟨"country_year", by decide⟩⟩
  columns := [⟨⟨"country_name", by decide⟩, "VARCHAR", none, none⟩]
  semantics := {}

/-- A service with this dataset, whose breaker opens at the first failure. -/
def powerService : Service where
  catalog := ⟨[powerDataset]⟩
  reader := Sql.grammatical
  taken := Sql.takesBuilt_grammatical
  breaker := { maxFailures := 1 }

/-- The service has the dataset. -/
lemma powerService_get : powerService.catalog.get "power-country-year" = .ok powerDataset := by
  have hname : checkName .fileId "power-country-year" = .ok () := by rfl
  rw [Catalog.get, hname]
  rfl

/-- A state from which the engine cannot be reached. -/
def unreachableEngine : State where
  replies := [.fault (.connection "connection refused")]

/-- A request with a condition on groups but no groups, and some conditions on rows. -/
def ungroupedRequest (filters : List (String × Json)) : QueryRequest where
  fileId := "power-country-year"
  filters
  having := [("emissions_tonnes", .obj [("gt", .int 1)])]

/-- Without a place in it, the request is contained. -/
theorem contained_ungrouped :
    let r := ungroupedRequest [("year", .int 2020)]
    powerService.Reached [] unreachableEngine ∧
      powerService.catalog.get r.fileId = .ok powerDataset ∧
      r.refusal? powerService.limits = some .havingAlone ∧
      Contained powerService r .havingAlone unreachableEngine := by
  intro r
  have hreached : powerService.Reached [] unreachableEngine := .start rfl
  have hrefusal : r.refusal? powerService.limits = some .havingAlone := rfl
  obtain ⟨q, hq, hplaces⟩ : ∃ q, r.check powerService.limits = .ok q ∧
      q.filters.any ColumnFilter.namesPlaces = false := ⟨_, rfl, rfl⟩
  refine ⟨hreached, powerService_get, hrefusal,
    (contained_iff hreached powerService_get hrefusal).mpr ⟨?_, ?_⟩⟩
  · rintro ⟨q', hq', hnames, -⟩
    obtain rfl : q = q' := Except.ok.inj (hq.symm.trans hq')
    rw [hplaces] at hnames
    exact absurd hnames nofun
  · rintro ⟨-, -, r', hpast, -⟩
    exact absurd hpast List.not_mem_nil

/-- With a country in it, the same request is refused after a statement was sent, which opened the
breaker. -/
theorem not_contained_ungrouped_country :
    let r := ungroupedRequest [("country_name", .str "Germany")]
    let after := ((powerService.query r).ends unreachableEngine).2
    powerService.Reached [] unreachableEngine ∧
      powerService.catalog.get r.fileId = .ok powerDataset ∧
      r.refusal? powerService.limits = some .havingAlone ∧
      after.sent.length = 1 ∧ after.breaker.gate = .opened ∧
      ¬Contained powerService r .havingAlone unreachableEngine := by
  intro r after
  obtain ⟨hsent, hopened⟩ : after.sent.length = 1 ∧ after.breaker.gate = .opened := by
    decide +kernel
  refine ⟨.start rfl, powerService_get, rfl, hsent, hopened, fun hcontained => ?_⟩
  have hunsent := congrArg List.length hcontained.unsent
  exact absurd (hsent.symm.trans hunsent) nofun

end Service

end QueryGate
