import QueryGate.Proofs.Service.Answers
import QueryGate.Proofs.Service.History

set_option relaxedAutoImplicit false
set_option autoImplicit false

/-!
# Answers over a course of calls

A call may find that no coverage can be built. It is then answered by an empty coverage, and this
answer is kept like any other. Once the coverage is there, every call that is computed is answered
by it, but the kept answer is given again to the same request.

## Main definitions

* `QueryGate.Service.Course` — a history in which the engine is steady and a coverage that is built
  stays.
* `QueryGate.Service.Stale` — the answer computed for an earlier call is given again, and is not the
  one by the coverage that is there now.

## Main results

* `QueryGate.Service.Course.unless_stale` — once the coverage is there, an answer is the one by it
  unless it is stale. For a request repeated to the letter it is stale only if no coverage could be
  built when it was computed.
* `QueryGate.Service.Stale.sameRequest` — an answer is stale only for the same request.
* `QueryGate.Service.Course.stale_germany` — a repeated request that is given a stale answer.

## Implementation notes

A kept answer is given to the same request with its keys in another order, too. The conditions of
its statement may then stand in another order, and a steady engine is free to tell the two apart.
This is why only a request repeated to the letter is told of.
-/

namespace QueryGate.Service

open ToolCall

variable {svc : Service} {engine : Sent → RowSet} {s : State} {c : Coverage} {v : Json}

/-! ## Courses -/

/-- The coverage that a call was answered by: the one that is there after it, or an empty one if
there is none. -/
def Made.coverage (svc : Service) (m : Made) : Coverage := (m.after svc).coverage.getD .empty

/-- **A computed answer is that by the coverage of its call.** -/
theorem Made.Computed.eq_answerBy {m : Made} (h : m.Computed svc v)
    (hsteady : Steady engine m.before (m.after svc)) :
    svc.answerBy? engine (m.coverage svc) m.call = some v := by
  obtain ⟨⟨key, haccepted, hmiss⟩, hv⟩ := h
  exact answerBy?_of_miss haccepted hmiss hv hsteady

/-- A coverage that is there before a call is there after it. -/
lemma Made.coverage_after (svc : Service) {m : Made} (h : m.before.coverage = some c) :
    (m.after svc).coverage = some c := keepsCoverage_runTool svc m.call m.before c h

/-- The calls that a service was asked, the last first, and the state that it comes to. The engine
may fail at any statement, but the rows that it gives for a statement are always the same. Between
calls a coverage may be built, and is not lost. -/
inductive Course (svc : Service) (engine : Sent → RowSet) : List Made → State → Prop
  | start {s : State} (hempty : s.cache = {}) : Course svc engine [] s
  | call {past : List Made} {m : Made} (h : Course svc engine past m.before)
    (hsteady : Steady engine m.before (m.after svc)) : Course svc engine (m :: past) (m.after svc)
  | meanwhile {past : List Made} {s t : State} (h : Course svc engine past s)
    (hcache : t.cache = s.cache) (htime : s.now ≤ t.now) (hcoverage : KeepsCoverage s t) :
    Course svc engine past t

/-- The answer computed for an earlier call is given again, and is not the one by a coverage. -/
structure Stale (svc : Service) (engine : Sent → RowSet) (m next : Made) (c : Coverage) : Prop where
  /-- Both calls are looked up under one key. -/
  sameKey : ∃ key, svc.Accepted m.call key ∧ svc.Accepted next.call key
  /-- The answer of the earlier one is kept for the later one. -/
  kept : ∃ v, m.Computed svc v ∧ next.FromCache svc v
  /-- The coverage of the earlier call has another answer than this one. -/
  differs : svc.answerBy? engine (m.coverage svc) m.call ≠ svc.answerBy? engine c next.call

/-- Where digests do not collide, an answer is stale only for the same request. -/
lemma Stale.sameRequest {m next : Made} {calls : List ToolCall} (h : Stale svc engine m next c)
    (hfree : CollisionFree calls) (hm : m.call ∈ calls) (hnext : next.call ∈ calls) :
    SameRequest m.call next.call := by
  obtain ⟨key, haccepted, haccepted'⟩ := h.sameKey
  exact haccepted.sameRequest haccepted' hfree hm hnext

namespace Course

variable {past : List Made} {next : Made}

/-- What the engine will reply next does not matter to what has come before. -/
lemma replies (h : Course svc engine past s) (next : List EngineReply) :
    Course svc engine past { s with replies := next } :=
  h.meanwhile rfl (Nat.le_refl _) fun _ hc => hc

/-- A course is a history. -/
lemma history (h : Course svc engine past s) : History svc past s := by
  induction h with
  | start hempty => exact .start hempty
  | call _ _ ih => exact .call ih
  | meanwhile _ hcache htime _ ih => exact ih.meanwhile hcache htime

/-- The engine was steady during every call. -/
lemma steady (h : Course svc engine past s) :
    ∀ m ∈ past, Steady engine m.before (m.after svc) := by
  induction h with
  | start => exact fun m hm => absurd hm List.not_mem_nil
  | call _ hsteady ih => exact List.forall_mem_cons.mpr ⟨hsteady, ih⟩
  | meanwhile _ _ _ _ ih => exact ih

/-- A coverage that was there after some call is there still. -/
lemma keeps (h : Course svc engine past s) :
    ∀ m ∈ past, ∀ c, (m.after svc).coverage = some c → s.coverage = some c := by
  induction h with
  | start => exact fun m hm => absurd hm List.not_mem_nil
  | @call past last _ _ ih =>
    refine List.forall_mem_cons.mpr ⟨fun c hc => hc, fun m hm c hc => ?_⟩
    exact Made.coverage_after svc (ih m hm c hc)
  | meanwhile _ _ _ hcoverage ih => exact fun m hm c hc => hcoverage c (ih m hm c hc)

/-- After each call before there was no coverage, or the one that is there now. -/
lemma eq_none_or (h : Course svc engine past next.before)
    (hc : (next.after svc).coverage = some c) :
    ∀ m ∈ past, (m.after svc).coverage = none ∨ (m.after svc).coverage = some c := by
  intro m hm
  cases hbefore : (m.after svc).coverage with
  | none => exact .inl rfl
  | some c' =>
    have hkept := Made.coverage_after svc (h.keeps m hm c' hbefore)
    exact .inr (hkept.symm.trans hc)

/-- **Once the coverage is there, an answer is the one by it unless it is stale.** A stale answer to
a request repeated to the letter was computed when no coverage could be built.

**Proof sketch.** An answer that is not kept is computed by the coverage in the end. One that is
kept was computed for an earlier call of the same request, by the coverage of that call. -/
theorem unless_stale (h : Course svc engine past next.before)
    (hsteady : Steady engine next.before (next.after svc))
    (hasked : next.call.asked?.isSome = true) (hv : next.outcome svc = .ok v)
    (hc : (next.after svc).coverage = some c) :
    (svc.answerBy? engine c next.call = some v ↔ ∀ m ∈ past, ¬Stale svc engine m next c) ∧
      ∀ m ∈ past, Stale svc engine m next c → m.call = next.call →
        (m.after svc).coverage = none := by
  obtain ⟨key, haccepted⟩ := accepted_of_ok hasked hv
  -- What is kept for the call is given.
  have hgiven : ∀ v', next.FromCache svc v' → v' = v := by
    rintro v' ⟨key', haccepted', hkept⟩
    exact Except.ok.inj (((next.served svc).eq_of_kept haccepted' hkept).1.symm.trans hv)
  refine ⟨⟨fun hanswer m hm hstale => ?_, fun hnone => ?_⟩, fun m hm hstale hcall => ?_⟩
  · obtain ⟨v', hcomputed, hcached⟩ := hstale.kept
    obtain rfl := hgiven v' hcached
    exact hstale.differs ((hcomputed.eq_answerBy (h.steady m hm)).trans hanswer.symm)
  · cases hkept : kept? svc next.before key with
    | none =>
      have hcoverage : next.coverage svc = c := by rw [Made.coverage, hc, Option.getD_some]
      have hcomputed : next.Computed svc v := ⟨⟨key, haccepted, hkept⟩, hv⟩
      rw [← hcoverage, hcomputed.eq_answerBy hsteady]
    | some v' =>
      have hcached : next.FromCache svc v' := ⟨key, haccepted, hkept⟩
      obtain rfl := hgiven v' hcached
      obtain ⟨m, hm, haccepted', hcomputed⟩ := h.history.exists_computed hkept
      have hanswer := hcomputed.eq_answerBy (h.steady m hm)
      by_contra hother
      have hdiffers : svc.answerBy? engine (m.coverage svc) m.call ≠ _ := fun heq =>
        hother (heq.symm.trans hanswer)
      exact hnone m hm ⟨⟨key, haccepted', haccepted⟩, ⟨v', hcomputed, hcached⟩, hdiffers⟩
  · refine (h.eq_none_or hc m hm).resolve_right fun hbuilt => hstale.differs ?_
    rw [Made.coverage, hbuilt, Option.getD_some, hcall]

end Course

/-! ## A query asked before and after the coverage is built -/

/-- A service with a dataset of countries, whose breaker lets some failures pass. -/
def placesService : Service where
  catalog := ⟨[powerDataset]⟩
  reader := Sql.grammatical
  taken := Sql.takesBuilt_grammatical

/-- Whether a statement is for the country where it is written small. -/
def asksSmall (x : Sent) : Bool := x.statement.params.any (·.text? == some "germany")

/-- An engine that has rows for the country as it is stored, and none where it is written small. -/
def germanyRows (x : Sent) : RowSet :=
  ⟨["country_name"], if asksSmall x then [] else [[.str "Germany"]]⟩

/-- The coverage that this engine has. -/
def germanyCoverage : Coverage :=
  { Coverage.empty with
    country := ["Germany"]
    country_ascending := List.pairwise_singleton _ _ }

/-- Whether an answer has so many rows. -/
def countsRows (n : Int) (v : Json) : Bool :=
  match v.get "row_count" with
  | .int m => m = n
  | _ => false

/-- An outcome whose answer has so many rows. -/
lemma exists_of_countsRows {ε : Type} {outcome : Except ε Json} {n : Int}
    (h : outcome.toOption.any (countsRows n) = true) :
    ∃ v, outcome = .ok v ∧ v.get "row_count" = .int n := by
  cases outcome with
  | error _ => exact absurd h Bool.false_ne_true
  | ok v =>
    refine ⟨v, rfl, ?_⟩
    have hcounts : countsRows n v = true := h
    unfold countsRows at hcounts
    split at hcounts
    · next heq => rw [heq, of_decide_eq_true hcounts]
    · exact absurd hcounts Bool.false_ne_true

/-- The engine is steady where each statement has had the rows for the country as it is written. -/
lemma steady_germanyRows {t : State} {asked : List Bool}
    (h : (sentSince s t).map asksSmall = asked)
    (hreplies : ∀ n small rows, asked[n]? = some small → s.replyAfter n = .rows rows →
      rows = ⟨["country_name"], if small = true then [] else [[.str "Germany"]]⟩) :
    Steady germanyRows s t := by
  intro n x rows hx hreply
  refine hreplies n (asksSmall x) rows ?_ hreply
  rw [← h, List.getElem?_map, hx]
  rfl

/-- A query for the country where it is written small. -/
def germanyRequest : QueryRequest where
  fileId := "power-country-year"
  select := ["country_name"]
  filters := [("country_name", .str "germany")]

/-- The query is asked first, and the coverage cannot be built. -/
def askedFirst : Made where
  call := .query germanyRequest
  before := { replies := [.fault (.connection "connection refused"), .rows ⟨["country_name"], []⟩] }

/-- A name is resolved next, and the coverage is built. -/
def resolvedNext : Made where
  call := .resolve { name := "Germany" }
  before := { askedFirst.after placesService with
    replies := [.rows ⟨["country_name"], [[.str "Germany"]]⟩] }

/-- The query is asked again. -/
def askedAgain : Made where
  call := .query germanyRequest
  before := resolvedNext.after placesService

/-- The name is resolved where the query leaves off. -/
lemma resolvedNext_before : resolvedNext.before = { askedFirst.after placesService with
    replies := [.rows ⟨["country_name"], [[.str "Germany"]]⟩] } := by
  rw [resolvedNext]

/-- The query is asked again where resolving leaves off. -/
lemma askedAgain_before : askedAgain.before = resolvedNext.after placesService := by
  rw [askedAgain]

/-- The query is sent with the country as it is written, and has no rows. -/
lemma askedFirst_ends :
    Steady germanyRows askedFirst.before (askedFirst.after placesService) ∧
      ∃ v, askedFirst.outcome placesService = .ok v ∧ v.get "row_count" = .int 0 := by
  obtain ⟨hcounts, hasks⟩ :
      (askedFirst.outcome placesService).toOption.any (countsRows 0) = true ∧
      (sentSince askedFirst.before (askedFirst.after placesService)).map asksSmall =
        [false, true] := by
    decide +kernel
  refine ⟨steady_germanyRows hasks fun n small rows hsmall hreply => ?_,
    exists_of_countsRows hcounts⟩
  match n with
  | 0 => exact absurd hreply nofun
  | 1 =>
    obtain rfl := Option.some.inj hsmall
    exact (EngineReply.rows.inj hreply).symm
  | n + 2 => exact absurd hsmall nofun

/-- The coverage is built of the one name that the engine has. -/
lemma resolvedNext_ends :
    Steady germanyRows resolvedNext.before (resolvedNext.after placesService) ∧
      (resolvedNext.after placesService).coverage = some germanyCoverage := by
  obtain ⟨hasks, hcoverage⟩ :
      (sentSince resolvedNext.before (resolvedNext.after placesService)).map asksSmall = [false] ∧
      (resolvedNext.after placesService).coverage = some germanyCoverage := by
    decide +kernel
  refine ⟨steady_germanyRows hasks fun n small rows hsmall hreply => ?_, hcoverage⟩
  match n with
  | 0 =>
    obtain rfl := Option.some.inj hsmall
    exact (EngineReply.rows.inj hreply).symm
  | n + 1 => exact absurd hsmall nofun

/-- The query asked again is given the answer without rows. -/
lemma askedAgain_ends :
    Course placesService germanyRows [resolvedNext, askedFirst] askedAgain.before ∧
      Steady germanyRows askedAgain.before (askedAgain.after placesService) ∧
      askedAgain.before.coverage = some germanyCoverage ∧
      ∃ v, askedAgain.outcome placesService = .ok v ∧ v.get "row_count" = .int 0 := by
  obtain ⟨hsteady, v, hv, hcount⟩ := askedFirst_ends
  obtain ⟨hsteady', hcoverage⟩ := resolvedNext_ends
  have hstart : Course placesService germanyRows [] askedFirst.before := .start rfl
  have hfirst : Course placesService germanyRows [askedFirst] resolvedNext.before := by
    rw [resolvedNext_before]
    exact (hstart.call hsteady).replies _
  have hcourse : Course placesService germanyRows [resolvedNext, askedFirst] askedAgain.before :=
    askedAgain_before ▸ hfirst.call hsteady'
  -- Nothing but the query is looked up, so that its answer is kept.
  have hcomputed : askedFirst.Computed placesService v := by
    obtain ⟨q, hq⟩ : ∃ q, germanyRequest.check placesService.limits = .ok q := ⟨_, rfl⟩
    exact ⟨⟨_, .query powerService_get hq, rfl⟩, hv⟩
  have hsame : SameRequest askedFirst.call askedAgain.call := .query (Json.Alike.refl _)
  have hfinite : askedFirst.call.Finite := by
    refine ⟨fun m hm => ?_, fun m hm => absurd hm List.not_mem_nil⟩
    obtain rfl := List.mem_singleton.mp hm
    exact .str _
  have hfew : FewOthers placesService [resolvedNext] askedAgain.call
      (max 1 placesService.cache.capacity) := by
    refine ⟨[], by decide, fun m hm hanswered => ?_⟩
    obtain rfl := List.mem_singleton.mp hm
    obtain ⟨⟨key, haccepted⟩, -⟩ := hanswered
    exact absurd haccepted nofun
  have htime : askedAgain.before.now = 0 := by
    have hbetween : resolvedNext.before.now = (askedFirst.after placesService).now := by
      rw [resolvedNext_before]
    rw [askedAgain_before, Made.now_after, hbetween, Made.now_after]
    rfl
  have hcached : askedAgain.FromCache placesService v := by
    have hpast : [resolvedNext, askedFirst] = [resolvedNext] ++ askedFirst :: [] := rfl
    refine hcourse.history.fromCache hpast hcomputed hfinite hsame ?_ hfew
    rw [htime]
    decide
  obtain ⟨key, haccepted, hkept⟩ := hcached
  obtain ⟨houtcome, hafter⟩ := (askedAgain.served placesService).eq_of_kept haccepted hkept
  exact ⟨hcourse, hafter ▸ steady_lookedUp key, askedAgain_before ▸ hcoverage, v, houtcome, hcount⟩

/-- An answer without rows is not the one by the coverage that is there. -/
lemma answerBy?_germany_ne (h : v.get "row_count" = .int 0) :
    placesService.answerBy? germanyRows germanyCoverage askedAgain.call ≠ some v := by
  have hcounts : (placesService.answerBy? germanyRows germanyCoverage askedAgain.call).any
      (countsRows 1) = true := by
    decide +kernel
  intro hanswer
  rw [hanswer] at hcounts
  have hone : countsRows 1 v = true := hcounts
  rw [countsRows, h] at hone
  exact absurd hone (by decide)

namespace Course

/-- The coverage is there, and the query is not given the answer by it. -/
theorem not_fresh_germany :
    Course placesService germanyRows [resolvedNext, askedFirst] askedAgain.before ∧
      Steady germanyRows askedAgain.before (askedAgain.after placesService) ∧
      askedAgain.before.coverage = some germanyCoverage ∧
      ∃ v, askedAgain.outcome placesService = .ok v ∧
        placesService.answerBy? germanyRows germanyCoverage askedAgain.call ≠ some v := by
  obtain ⟨hcourse, hsteady, hcoverage, v, hv, hcount⟩ := askedAgain_ends
  exact ⟨hcourse, hsteady, hcoverage, v, hv, answerBy?_germany_ne hcount⟩

/-- What the query is given is stale: it was computed when no coverage could be built. -/
theorem stale_germany :
    Stale placesService germanyRows askedFirst askedAgain germanyCoverage ∧
      (askedFirst.after placesService).coverage = none := by
  obtain ⟨hcourse, hsteady, hcoverage, v, hv, hcount⟩ := askedAgain_ends
  have hafter := Made.coverage_after placesService hcoverage
  obtain ⟨hfresh, hmissing⟩ := hcourse.unless_stale hsteady rfl hv hafter
  have hstale : ¬∀ m ∈ [resolvedNext, askedFirst],
      ¬Stale placesService germanyRows m askedAgain germanyCoverage :=
    fun hnone => answerBy?_germany_ne hcount (hfresh.mpr hnone)
  push Not at hstale
  obtain ⟨m, hm, hstale⟩ := hstale
  rcases List.mem_pair.mp hm with rfl | rfl
  · obtain ⟨key, haccepted, -⟩ := hstale.sameKey
    exact absurd haccepted nofun
  · exact ⟨hstale, hmissing _ hm hstale rfl⟩

end Course

end QueryGate.Service
