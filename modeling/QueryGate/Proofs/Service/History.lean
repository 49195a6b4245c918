import QueryGate.Proofs.Service.Refusals
import QueryGate.Proofs.Service.Serving

set_option relaxedAutoImplicit false
set_option autoImplicit false

/-!
# A history of calls

What the cache of a service does over a history of calls: an answer that is kept was computed for
the same request a short while ago, a computed answer is given again until it is too old or too
many others were given, and a call without an answer leaves every good entry alone.

## Main definitions

* `QueryGate.Service.Made` — a call with the state that it was made in.
* `QueryGate.Service.History` — the calls that a service was asked, and the state that it comes to.
* `QueryGate.Service.CachesSoundly` — what is to be expected of the next call.

## Main results

* `QueryGate.Service.History.source` — every entry is the answer computed for an earlier call.
* `QueryGate.Service.History.behind` — the entry of a computed answer stays as long as fewer keys
  than the cache has room for are answered.
* `QueryGate.Service.History.cachesSoundly` — the next call meets all expectations.
-/

namespace QueryGate.Service

open Session ToolCall

variable {svc : Service} {s : State} {key : String} {v : Json}

/-! ## Calls -/

/-- A call with the state that it was made in. -/
structure Made where
  /-- The call. -/
  call : ToolCall
  /-- The state before it. -/
  before : State

namespace Made

variable (svc) (m : Made)

/-- How a call ended. -/
def outcome : Except Halt Json := ((svc.runTool m.call).ends m.before).1

/-- The state after a call. -/
def after : State := ((svc.runTool m.call).ends m.before).2

/-- A good answer was kept for a call. -/
def FromCache (v : Json) : Prop := ∃ key, svc.Accepted m.call key ∧ kept? svc m.before key = some v

/-- A call for which no good answer was kept ended with an answer. -/
def Computed (v : Json) : Prop :=
  (∃ key, svc.Accepted m.call key ∧ kept? svc m.before key = none) ∧ m.outcome svc = .ok v

/-- A query or a comparison ended with an answer. -/
def Answered : Prop := (∃ key, svc.Accepted m.call key) ∧ ∃ v, m.outcome svc = .ok v

/-- How a call was served. -/
lemma served : Served svc m.call m.before (m.after svc) (m.outcome svc) :=
  Service.served svc m.call m.before

/-- No time passes in a call. -/
lemma now_after : (m.after svc).now = m.before.now := (m.served svc).now_eq

end Made

/-! ## Histories -/

/-- The calls that a service was asked, the last first, and the state that it comes to. Between
calls anything but the cache may change, as long as the clock is not put back: the engine makes up
its answers, other calls end at the breaker, the coverage is built or lost. -/
inductive History (svc : Service) : List Made → State → Prop
  | start {s : State} (hempty : s.cache = {}) : History svc [] s
  | call {past : List Made} {m : Made} (h : History svc past m.before) :
    History svc (m :: past) (m.after svc)
  | meanwhile {past : List Made} {s t : State} (h : History svc past s)
    (hcache : t.cache = s.cache) (htime : s.now ≤ t.now) : History svc past t

/-- Among some calls, fewer than `n` distinct requests other than this one were answered. -/
def FewOthers (svc : Service) (calls : List Made) (c : ToolCall) (n : Nat) : Prop :=
  ∃ others : List ToolCall, others.length < n ∧
    ∀ m ∈ calls, m.Answered svc → SameRequest m.call c ∨ ∃ o ∈ others, SameRequest m.call o

/-- An entry is the answer computed for a call. -/
structure Source (svc : Service) (m : Made) (e : CacheEntry Json) : Prop where
  /-- It stands under the key of the call. -/
  accepted : svc.Accepted m.call e.key
  /-- Its value was computed for the call. -/
  computed : m.Computed svc e.value
  /-- It was stored then. -/
  stored : e.storedAt = m.before.now

namespace History

variable {past : List Made} {m next : Made} {between earlier : List Made}

/-- The entries have keys of their own. -/
lemma distinct (h : History svc past s) : s.cache.Distinct := by
  induction h with
  | start hempty =>
    rw [hempty]
    exact List.nodup_nil
  | @call _ m _ ih => exact (m.served svc).distinct ih
  | meanwhile _ hcache _ ih => exact hcache ▸ ih

/-- No call was made later than now. -/
lemma now_le (h : History svc past s) : ∀ m ∈ past, m.before.now ≤ s.now := by
  induction h with
  | start => exact fun m hm => absurd hm List.not_mem_nil
  | @call past last _ ih =>
    intro m hm
    rw [last.now_after]
    rcases List.mem_cons.mp hm with rfl | hm
    · exact Nat.le_refl _
    · exact ih m hm
  | meanwhile _ _ htime ih => exact fun m hm => Nat.le_trans (ih m hm) htime

/-- An answer that was computed less time ago than answers are good for makes a good entry. -/
lemma good (h : History svc past s) (hm : m ∈ past) :
    s.now < m.before.now + svc.cache.ttl ↔
      CacheEntry.Good svc.cache s.now ⟨key, v, m.before.now⟩ := by
  rw [Nat.add_comm]
  exact (Nat.sub_lt_iff_lt_add (h.now_le m hm)).symm

/-- **Every entry is the answer computed for an earlier call.** -/
theorem source (h : History svc past s) :
    ∀ e ∈ s.cache.entries, ∃ m ∈ past, Source svc m e := by
  induction h with
  | start hempty =>
    intro e he
    rw [hempty] at he
    exact absurd he List.not_mem_nil
  | @call past last _ ih =>
    intro e he
    rcases (last.served svc).mem_entries he with he | ⟨haccepted, hmiss, hvalue, hstored⟩
    · obtain ⟨m, hm, hsource⟩ := ih e he
      exact ⟨m, List.mem_cons_of_mem _ hm, hsource⟩
    · exact ⟨last, List.mem_cons_self, haccepted, ⟨⟨e.key, haccepted, hmiss⟩, hvalue⟩, hstored⟩
  | meanwhile _ hcache _ ih =>
    rw [hcache]
    exact ih

/-- A good answer that is kept was computed for a call with its key. -/
lemma exists_computed (h : History svc past s) (hkept : kept? svc s key = some v) :
    ∃ m ∈ past, svc.Accepted m.call key ∧ m.Computed svc v := by
  obtain ⟨e, he, rfl, rfl, -⟩ := Cache.get_eq_some hkept
  obtain ⟨m, hm, hsource⟩ := h.source e he
  exact ⟨m, hm, hsource.accepted, hsource.computed⟩

/-- **A computed answer stays as long as fewer keys than the cache has room for are answered.**

**Proof sketch.** Induction on the history back to the call that computed the answer. What stands
before its entry are entries of the keys answered since. -/
theorem behind (h : History svc past s) {keys : List String}
    (haccepted : svc.Accepted m.call key) (hcomputed : m.Computed svc v)
    (hroom : keys.length < max 1 svc.cache.capacity) :
    ∀ between, past = between ++ m :: earlier →
      (∀ n ∈ between, n.Answered svc → ∀ k, svc.Accepted n.call k → k = key ∨ k ∈ keys) →
      s.now < m.before.now + svc.cache.ttl → s.cache.Behind ⟨key, v, m.before.now⟩ keys := by
  induction h with
  | start => exact fun between hpast => absurd hpast (by simp)
  | @call past last hpast' ih =>
    intro between hpast hkeys hgood
    rw [last.now_after] at hgood
    cases between with
    | nil =>
      obtain ⟨rfl, -⟩ := List.cons.inj hpast
      obtain ⟨⟨key', haccepted', hmiss⟩, houtcome⟩ := hcomputed
      obtain rfl := haccepted.key_unique haccepted'
      exact (last.served svc).behind_of_miss haccepted hmiss houtcome keys
    | cons n between =>
      obtain ⟨rfl, hrest⟩ := List.cons.inj hpast
      have hbefore := ih between hrest (fun n hn => hkeys n (List.mem_cons_of_mem _ hn)) hgood
      have hm : m ∈ past := hrest ▸ List.mem_append_right _ List.mem_cons_self
      exact (last.served svc).behind hbefore hpast'.distinct ((hpast'.good hm).mp hgood)
        (fun k v hk hv => hkeys last List.mem_cons_self ⟨⟨k, hk⟩, v, hv⟩ k hk) hroom
  | meanwhile _ hcache htime ih =>
    intro between hpast hkeys hgood
    rw [hcache]
    exact ih between hpast hkeys (Nat.lt_of_le_of_lt htime hgood)

/-- **An answer computed for the same request is kept for it**, as long as it is good and fewer
other requests than the cache has room for are answered. -/
theorem fromCache (h : History svc past next.before) (hpast : past = between ++ m :: earlier)
    (hcomputed : m.Computed svc v) (hfinite : m.call.Finite)
    (hsame : SameRequest m.call next.call)
    (hgood : next.before.now < m.before.now + svc.cache.ttl)
    (hfew : FewOthers svc between next.call (max 1 svc.cache.capacity)) :
    next.FromCache svc v := by
  obtain ⟨key, haccepted, -⟩ := hcomputed.1
  have haccepted' : svc.Accepted next.call key := haccepted.of_sameRequest hsame hfinite
  obtain ⟨others, hlength, hothers⟩ := hfew
  -- Every request answered in between has the key of this one or of one of the others.
  have hkeys : ∀ n ∈ between, n.Answered svc → ∀ k, svc.Accepted n.call k →
      k = key ∨ k ∈ others.filterMap key? := by
    intro n hn hanswered k hk
    rcases hothers n hn hanswered with hn | ⟨o, ho, hn⟩
    · left
      exact Option.some.inj (hk.key?_eq.symm.trans (hn.key?_eq.trans haccepted'.key?_eq))
    · right
      exact List.mem_filterMap.mpr ⟨o, ho, hn.key?_eq.symm.trans hk.key?_eq⟩
  have hroom := Nat.lt_of_le_of_lt (List.length_filterMap_le key? others) hlength
  have hbehind := h.behind haccepted hcomputed hroom between hpast hkeys hgood
  have hm : m ∈ past := hpast ▸ List.mem_append_right _ List.mem_cons_self
  have hfound := Cache.get_of_mem h.distinct hbehind.mem ((h.good hm).mp hgood)
  exact ⟨key, haccepted', congrArg Prod.fst hfound⟩

end History

/-! ## What to expect of the next call -/

/-- What is to be expected of a call after some others. -/
structure CachesSoundly (svc : Service) (past : List Made) (next : Made) : Prop where
  /-- An answer from the cache is given as it is, and was computed for the same request, less time
  ago than answers are good for. -/
  sound : CollisionFree (next.call :: past.map Made.call) → ∀ v, next.FromCache svc v →
    next.outcome svc = .ok v ∧
      ∃ m ∈ past, SameRequest m.call next.call ∧ m.Computed svc v ∧
        m.before.now ≤ next.before.now ∧ next.before.now < m.before.now + svc.cache.ttl
  /-- An answer that was computed for the same request, less time ago than answers are good for, is
  given again and nothing is sent, if fewer other requests than the cache has room for were
  answered in between. -/
  idempotent : ∀ between m earlier v, past = between ++ m :: earlier → m.Computed svc v →
    m.call.Finite → SameRequest m.call next.call →
    next.before.now < m.before.now + svc.cache.ttl →
    FewOthers svc between next.call (max 1 svc.cache.capacity) →
    next.outcome svc = .ok v ∧ (next.after svc).sent = next.before.sent ∧
      (next.after svc).breaker = next.before.breaker
  /-- Without an answer, no entry is added and every good one is left as it is. -/
  contained : ∀ halt, next.outcome svc = .error halt →
    (next.after svc).cache.entries.Sublist next.before.cache.entries ∧
      ∀ e ∈ next.before.cache.entries, e.Good svc.cache next.before.now →
        e ∈ (next.after svc).cache.entries

/-- **Whatever calls a service was asked before, the next one is cached soundly.**

**Proof sketch.** A call is answered from the cache, computed and kept, or has failed (`Served`). By
induction on the history every entry is the answer computed for an earlier call under its key
(`History.source`), and keys tell requests apart by assumption. An entry stays while fewer other
keys than there is room for are touched (`History.fromCache`), and a call that fails takes no good
entry away (`Served.entries_of_error`). -/
theorem History.cachesSoundly {past : List Made} {next : Made} (h : History svc past next.before) :
    CachesSoundly svc past next where
  sound hfree v hcached := by
    obtain ⟨key, haccepted, hkept⟩ := hcached
    have houtcome := ((next.served svc).eq_of_kept haccepted hkept).1
    obtain ⟨e, he, rfl, rfl, hgood, -⟩ := Cache.get_eq_some hkept
    obtain ⟨m, hm, hsource⟩ := h.source e he
    have hsame : SameRequest m.call next.call :=
      hsource.accepted.sameRequest haccepted hfree
        (List.mem_cons_of_mem _ (List.mem_map_of_mem hm)) List.mem_cons_self
    have hgood : CacheEntry.Good svc.cache next.before.now ⟨e.key, e.value, m.before.now⟩ :=
      hsource.stored ▸ hgood
    exact ⟨houtcome, m, hm, hsame, hsource.computed, h.now_le m hm, (h.good hm).mpr hgood⟩
  idempotent between m earlier v hpast hcomputed hfinite hsame hgood hfew := by
    obtain ⟨key, haccepted, hkept⟩ := h.fromCache hpast hcomputed hfinite hsame hgood hfew
    obtain ⟨houtcome, hafter⟩ := (next.served svc).eq_of_kept haccepted hkept
    rw [hafter]
    exact ⟨houtcome, rfl, rfl⟩
  contained _ hhalt := (next.served svc).entries_of_error h.distinct hhalt

/-! ## A query asked again -/

/-- A query for some years, whose bounds stand in some order. -/
def yearsRequest (bounds : List (String × Json)) : QueryRequest where
  fileId := "power-country-year"
  filters := [("year", .obj bounds)]

/-- The query with its lower bound first. -/
def fromTo : QueryRequest := yearsRequest [("gte", .int 2015), ("lte", .int 2020)]

/-- The query with its upper bound first. -/
def toFrom : QueryRequest := yearsRequest [("lte", .int 2020), ("gte", .int 2015)]

/-- Both are the same request. -/
lemma sameRequest_fromTo : SameRequest (.query fromTo) (.query toFrom) := by
  have hbounds : Json.Alike (.obj [("gte", .int 2015), ("lte", .int 2020)])
      (.obj [("lte", .int 2020), ("gte", .int 2015)]) :=
    (Json.alike_obj_iff (by simp)).mpr (.of_perm (List.Perm.swap _ _ _))
  have hfilters : Json.Members.Alike fromTo.filters toFrom.filters :=
    ⟨_, List.Perm.refl _, .cons ⟨rfl, hbounds⟩ .nil⟩
  have hrequest : fromTo.Alike toFrom :=
    ⟨rfl, rfl, hfilters, rfl, rfl, rfl, rfl, .of_perm (List.Perm.refl _),
      .of_perm (List.Perm.refl _)⟩
  exact .query (hrequest.toJson (List.nodup_singleton _) List.nodup_nil List.nodup_nil)

/-- The query is computed, and a second later it is given from the cache with its bounds in the
other order. -/
theorem cachesSoundly_fromTo_toFrom :
    let first : Made := ⟨.query fromTo, {}⟩
    let again : Made := ⟨.query toFrom, { first.after powerService with now := Span.second }⟩
    ∃ v, History powerService [first] again.before ∧ first.Computed powerService v ∧
      CollisionFree [again.call, first.call] ∧ again.FromCache powerService v ∧
      again.outcome powerService = .ok v ∧
      (again.after powerService).sent = again.before.sent := by
  intro first again
  have hstart : History powerService [] first.before := .start rfl
  have htime : (first.after powerService).now ≤ again.before.now := by
    rw [Made.now_after]
    exact Nat.zero_le _
  have hhistory : History powerService [first] again.before :=
    (History.call hstart).meanwhile rfl htime
  obtain ⟨v, hv⟩ : ∃ v, first.outcome powerService = .ok v := by
    have hok : (first.outcome powerService).isOk = true := by decide +kernel
    cases houtcome : first.outcome powerService with
    | error e =>
      rw [houtcome] at hok
      exact absurd hok Bool.false_ne_true
    | ok v => exact ⟨v, rfl⟩
  obtain ⟨q, hq⟩ : ∃ q, fromTo.check powerService.limits = .ok q := ⟨_, rfl⟩
  have hcomputed : first.Computed powerService v := ⟨⟨_, .query powerService_get hq, rfl⟩, hv⟩
  have hfinite : first.call.Finite := by
    refine ⟨fun m hm => ?_, fun m hm => absurd hm List.not_mem_nil⟩
    obtain rfl := List.mem_singleton.mp hm
    exact .obj (by simp [Json.Finite.int])
  have hfew : FewOthers powerService [] again.call (max 1 powerService.cache.capacity) :=
    ⟨[], by decide, fun m hm => absurd hm List.not_mem_nil⟩
  have hfree : CollisionFree [again.call, first.call] := by
    have hmessage := sameRequest_fromTo.message?_eq.symm
    have hsingle : ∀ x ∈ [again.call, first.call].filterMap message?,
        first.call.message? = some x := by
      simp [first, again, hmessage]
    exact fun x hx y hy _ => Option.some.inj ((hsingle x hx).symm.trans (hsingle y hy))
  have honly : [first] = [] ++ first :: [] := rfl
  have hcached : again.FromCache powerService v :=
    hhistory.fromCache honly hcomputed hfinite sameRequest_fromTo (by decide) hfew
  obtain ⟨houtcome, -⟩ := hhistory.cachesSoundly.sound hfree v hcached
  obtain ⟨-, hsent, -⟩ := hhistory.cachesSoundly.idempotent [] first [] v honly hcomputed hfinite
    sameRequest_fromTo (by decide) hfew
  exact ⟨v, hhistory, hcomputed, hfree, hcached, houtcome, hsent⟩

end QueryGate.Service
