import QueryGate.Proofs.Cache.Key
import QueryGate.Proofs.Cache.Recency
import QueryGate.Proofs.Request.Acceptance
import QueryGate.Proofs.Service.Reached

set_option relaxedAutoImplicit false
set_option autoImplicit false

/-!
# How a call is served

Accepted queries and comparisons are looked up in the cache, each under its key, and are computed
where nothing good is kept. All other calls leave the cache alone.

## Main definitions

* `QueryGate.ToolCall.SameRequest` — two calls of one operation whose arguments differ at most in
  the order of keys.
* `QueryGate.Service.Accepted` — a call that is looked up in the cache, with its key.
* `QueryGate.Service.Served` — how a call is served.

## Main results

* `QueryGate.Service.served` — there is no other way to serve a call.
* `QueryGate.Service.Accepted.of_sameRequest` — a call is accepted in any order of keys, under one
  key.
* `QueryGate.Service.Accepted.sameRequest` — where digests do not collide, calls with one key are
  the same request.
-/

namespace QueryGate

namespace ToolCall

/-- The arguments of a call that is looked up in the cache, with its operation. -/
def asked? : ToolCall → Option (String × Json)
  | .query r => some ("query", r.toJson)
  | .comparison r => some ("yoy", r.toJson)
  | _ => none

/-- The key of a call that is looked up in the cache. -/
def key? (c : ToolCall) : Option String :=
  c.asked?.map fun (operation, args) => cacheKey operation args

/-- The bytes that are digested for the key of a call. -/
def message? (c : ToolCall) : Option (List UInt8) :=
  c.asked?.map fun (operation, args) => cacheMessage operation args

/-- Two calls of one operation whose arguments differ at most in the order of keys. -/
inductive SameRequest : ToolCall → ToolCall → Prop
  | query {r r' : QueryRequest} (h : Json.Alike r.toJson r'.toJson) :
    SameRequest (.query r) (.query r')
  | comparison {r r' : ComparisonRequest} (h : Json.Alike r.toJson r'.toJson) :
    SameRequest (.comparison r) (.comparison r')

/-- The numbers in the filters of a call all have a JSON form, as those of a call that was read from
JSON have. -/
def Finite : ToolCall → Prop
  | .query r => (∀ m ∈ r.filters, m.2.Finite) ∧ ∀ m ∈ r.having, m.2.Finite
  | .comparison r => ∀ m ∈ r.filters, m.2.Finite
  | _ => True

/-- The same request has the same key. -/
lemma SameRequest.key?_eq {c c' : ToolCall} (h : SameRequest c c') : c.key? = c'.key? := by
  cases h with
  | query h => exact congrArg some (cacheKey_congr (Json.alike_iff_canonical.mp h))
  | comparison h => exact congrArg some (cacheKey_congr (Json.alike_iff_canonical.mp h))

/-- The same is digested for it. -/
lemma SameRequest.message?_eq {c c' : ToolCall} (h : SameRequest c c') :
    c.message? = c'.message? := by
  cases h with
  | query h => exact congrArg some (cacheMessage_congr (Json.alike_iff_canonical.mp h))
  | comparison h => exact congrArg some (cacheMessage_congr (Json.alike_iff_canonical.mp h))

end ToolCall

/-- No two of the messages digested for some calls have one digest. -/
def ToolCall.CollisionFree (calls : List ToolCall) : Prop :=
  ∀ x ∈ calls.filterMap message?, ∀ y ∈ calls.filterMap message?,
    Digest.sha256 x = Digest.sha256 y → x = y

namespace Service

open Session ToolCall

variable {svc : Service} {s : State} {c c' : ToolCall} {key : String}

/-! ## Accepted calls -/

/-- A call that is looked up in the cache under a key: a query or a comparison of a dataset that
exists, accepted by its check. -/
inductive Accepted (svc : Service) : ToolCall → String → Prop
  | query {r : QueryRequest} {d : Dataset} {q : Query} (hd : svc.catalog.get r.fileId = .ok d)
    (hq : r.check svc.limits = .ok q) : Accepted svc (.query r) (cacheKey "query" r.toJson)
  | comparison {r : ComparisonRequest} {d : Dataset} {c : Comparison}
    (hd : svc.catalog.get r.fileId = .ok d) (hc : r.check svc.limits = .ok (some c)) :
    Accepted svc (.comparison r) (cacheKey "yoy" r.toJson)

namespace Accepted

/-- The key is that of the call. -/
lemma key?_eq (h : svc.Accepted c key) : c.key? = some key := by cases h <;> rfl

/-- A call has one key. -/
lemma key_unique {key' : String} (h : svc.Accepted c key) (h' : svc.Accepted c key') :
    key = key' := Option.some.inj (h.key?_eq.symm.trans h'.key?_eq)

/-- **A call is accepted in any order of keys, and has the same key.** -/
theorem of_sameRequest (h : svc.Accepted c key) (hsame : SameRequest c c') (hfinite : c.Finite) :
    svc.Accepted c' key := by
  cases h with
  | @query r d q hd hq =>
    cases hsame with
    | @query _ r' halike =>
      have hcanonical := Json.alike_iff_canonical.mp halike
      have hrequest : r.Alike r' := QueryRequest.alike_of_canonical hcanonical
      obtain ⟨q', hq'⟩ := hrequest.check hfinite.1 hfinite.2 ⟨q, hq⟩
      rw [cacheKey_congr hcanonical]
      exact .query (hrequest.fileId ▸ hd) hq'
  | @comparison r d c hd hc =>
    cases hsame with
    | @comparison _ r' halike =>
      have hcanonical := Json.alike_iff_canonical.mp halike
      have hrequest : r.Alike r' := ComparisonRequest.alike_of_canonical hcanonical
      obtain ⟨checked, hchecked⟩ := hrequest.check hfinite ⟨some c, hc⟩
      have hsome : checked.isSome = true := by
        rw [ComparisonRequest.isSome_of_check hchecked, ← hrequest.topCount,
          ← ComparisonRequest.isSome_of_check hc]
        rfl
      obtain ⟨c', rfl⟩ := Option.isSome_iff_exists.mp hsome
      rw [cacheKey_congr hcanonical]
      exact .comparison (hrequest.fileId ▸ hd) hchecked

/-- **Where digests do not collide, calls with one key are the same request.** -/
theorem sameRequest (h : svc.Accepted c key) (h' : svc.Accepted c' key) {calls : List ToolCall}
    (hfree : CollisionFree calls) (hc : c ∈ calls) (hc' : c' ∈ calls) : SameRequest c c' := by
  -- One operation with one digest has one canonical text.
  have hcanonical : ∀ {operation args args'}, c.asked? = some (operation, args) →
      c'.asked? = some (operation, args') → cacheKey operation args = cacheKey operation args' →
        Json.Alike args args' := by
    intro operation args args' hasked hasked' hkey
    have hmem : cacheMessage operation args ∈ calls.filterMap message? :=
      List.mem_filterMap.mpr ⟨c, hc, by rw [message?, hasked]; rfl⟩
    have hmem' : cacheMessage operation args' ∈ calls.filterMap message? :=
      List.mem_filterMap.mpr ⟨c', hc', by rw [message?, hasked']; rfl⟩
    have hmessage := hfree _ hmem _ hmem' (sha256_eq_of_cacheKey hkey)
    exact Json.alike_of_canonical (canonical_eq_of_cacheMessage hmessage)
  generalize hk : key = key' at h'
  cases h with
  | query =>
    cases h' with
    | query => exact .query (hcanonical rfl rfl hk)
    | comparison => exact absurd hk (cacheKey_query_ne_yoy _ _)
  | comparison =>
    cases h' with
    | query => exact absurd hk.symm (cacheKey_query_ne_yoy _ _)
    | comparison => exact .comparison (hcanonical rfl rfl hk)

end Accepted

/-! ## Serving a call -/

/-- How a call is served. -/
inductive Served (svc : Service) (c : ToolCall) (s t : State) : Except Halt Json → Prop
  /-- It is given a kept answer. -/
  | kept {key : String} {v : Json} (h : svc.Accepted c key) (hkept : kept? svc s key = some v)
    (hafter : t = lookedUp svc s key) : Served svc c s t (.ok v)
  /-- Nothing good is kept, and an answer is computed and kept. -/
  | computed {key : String} {v : Json} (h : svc.Accepted c key) (hmiss : kept? svc s key = none)
    (hcache : t.cache = (lookedUp svc s key).cache.set svc.cache s.now key v)
    (htime : t.now = s.now) : Served svc c s t (.ok v)
  /-- Nothing good is kept, and no answer is computed. -/
  | failed {key : String} {halt : Halt} (h : svc.Accepted c key) (hmiss : kept? svc s key = none)
    (hcache : t.cache = (lookedUp svc s key).cache) (htime : t.now = s.now) :
    Served svc c s t (.error halt)
  /-- It is not looked up. -/
  | aside {r : Except Halt Json} (hother : ∀ key, ¬svc.Accepted c key)
    (hcache : t.cache = s.cache) (htime : t.now = s.now) : Served svc c s t r

/-- A call whose answer is kept or computed is served in one of three ways. -/
lemma served_answered {operation : String} {args : Json} {compute : Session Json}
    (h : svc.Accepted c (cacheKey operation args)) (hcache : compute.Leaves SameCache)
    (htime : compute.Leaves SameTime) (s : State) :
    Served svc c s ((svc.answered operation args compute).ends s).2
      ((svc.answered operation args compute).ends s).1 := by
  cases hkept : kept? svc s (cacheKey operation args) with
  | some v =>
    rw [ends_answered_of_hit hkept]
    exact .kept h hkept rfl
  | none =>
    have hsameCache := hcache (lookedUp svc s (cacheKey operation args))
    have hsameTime := htime (lookedUp svc s (cacheKey operation args))
    rw [ends_answered_of_miss hkept]
    rcases hends : compute.ends (lookedUp svc s (cacheKey operation args)) with ⟨halt | v, t⟩ <;>
      rw [hends] at hsameCache hsameTime
    · exact .failed h hkept hsameCache hsameTime
    · refine .computed h hkept ?_ hsameTime
      dsimp only
      rw [show t.cache = _ from hsameCache, show t.now = _ from hsameTime]
      rfl

/-- A query or a comparison that is not looked up ends without an answer and changes nothing. -/
lemma exists_halt_of_not_accepted (hother : ∀ key, ¬svc.Accepted c key)
    (hasked : c.asked?.isSome = true) (s : State) :
    ∃ halt, (svc.runTool c).ends s = (.error halt, s) := by
  cases c with
  | query r =>
    cases hd : svc.catalog.get r.fileId with
    | error failure => exact ⟨_, ends_query_of_unknown hd⟩
    | ok d =>
      cases hq : r.check svc.limits with
      | error refusal => exact ⟨_, ends_query_of_refused hd hq⟩
      | ok q => exact absurd (.query hd hq) (hother _)
  | comparison r =>
    cases hd : svc.catalog.get r.fileId with
    | error failure => exact ⟨_, ends_compare_of_unknown hd⟩
    | ok d =>
      cases hc : r.check svc.limits with
      | error refusal => exact ⟨_, ends_compare_of_refused hd hc⟩
      | ok checked =>
        cases checked with
        | none => exact ⟨_, ends_compare_of_none hd hc⟩
        | some c => exact absurd (.comparison hd hc) (hother _)
  | _ => exact absurd hasked nofun

/-- A query or a comparison with an answer was looked up. -/
lemma accepted_of_ok (hasked : c.asked?.isSome = true) {v : Json}
    (h : ((svc.runTool c).ends s).1 = .ok v) : ∃ key, svc.Accepted c key := by
  by_contra hother
  obtain ⟨halt, hends⟩ := exists_halt_of_not_accepted (not_exists.mp hother) hasked s
  rw [hends] at h
  exact absurd h nofun

/-- A call that is not looked up stays within what asking the engine stays within. -/
lemma leaves_runTool_of_not_accepted {R : State → State → Prop} [AllowsEngine R]
    (hother : ∀ key, ¬svc.Accepted c key) : (svc.runTool c).Leaves R := by
  intro s
  have hunchanged : c.asked?.isSome = true → R s ((svc.runTool c).ends s).2 := by
    intro hasked
    obtain ⟨halt, hends⟩ := exists_halt_of_not_accepted hother hasked s
    exact hends ▸ refl_of R s
  cases c with
  | query r => exact hunchanged rfl
  | comparison r => exact hunchanged rfl
  | listFiles => exact refl_of R s
  | schema fileId => exact leaves_schema fileId s
  | resolve r =>
    have hleaves : (svc.runTool (.resolve r)).Leaves R :=
      (leaves_resolve r).bind fun resolution => Leaves.pure resolution.toJson
    exact hleaves s

/-- **Every call is served in one of these ways.** -/
theorem served (svc : Service) (c : ToolCall) (s : State) :
    Served svc c s ((svc.runTool c).ends s).2 ((svc.runTool c).ends s).1 := by
  by_cases haccepted : ∃ key, svc.Accepted c key
  · obtain ⟨key, h⟩ := haccepted
    cases h with
    | query hd hq =>
      rw [runTool, ends_query hd hq]
      exact served_answered (.query hd hq) (leaves_freshRows _ _) (leaves_freshRows _ _) s
    | comparison hd hc =>
      rw [runTool, ends_compare hd hc]
      exact served_answered (.comparison hd hc) (leaves_freshComparison _ _)
        (leaves_freshComparison _ _) s
  · have hother := not_exists.mp haccepted
    have hcache : SameCache s _ := leaves_runTool_of_not_accepted hother s
    have htime : SameTime s _ := leaves_runTool_of_not_accepted hother s
    exact .aside hother hcache htime

namespace Served

variable {t : State} {r : Except Halt Json} {e : CacheEntry Json}

/-- No time passes. -/
lemma now_eq (h : Served svc c s t r) : t.now = s.now := by
  cases h with
  | kept _ _ hafter => exact hafter ▸ rfl
  | computed _ _ _ htime => exact htime
  | failed _ _ _ htime => exact htime
  | aside _ _ htime => exact htime

/-- Entries keep keys of their own. -/
lemma distinct (h : Served svc c s t r) (hdistinct : s.cache.Distinct) : t.cache.Distinct := by
  cases h with
  | kept _ _ hafter => exact hafter ▸ hdistinct.get
  | computed _ _ hcache => exact hcache ▸ hdistinct.get.set
  | failed _ _ hcache => exact hcache ▸ hdistinct.get
  | aside _ hcache => exact hcache ▸ hdistinct

/-- A good answer that is kept for a call is given. -/
lemma eq_of_kept (h : Served svc c s t r) (haccepted : svc.Accepted c key) {v : Json}
    (hkept : kept? svc s key = some v) : r = .ok v ∧ t = lookedUp svc s key := by
  cases h with
  | kept haccepted' hkept' hafter =>
    obtain rfl := haccepted.key_unique haccepted'
    obtain rfl := Option.some.inj (hkept.symm.trans hkept')
    exact ⟨rfl, hafter⟩
  | computed haccepted' hmiss =>
    obtain rfl := haccepted.key_unique haccepted'
    exact absurd (hkept.symm.trans hmiss) nofun
  | failed haccepted' hmiss =>
    obtain rfl := haccepted.key_unique haccepted'
    exact absurd (hkept.symm.trans hmiss) nofun
  | aside hother => exact absurd haccepted (hother key)

/-- An answer that is computed becomes the most recent entry. -/
lemma behind_of_miss (h : Served svc c s t r) (haccepted : svc.Accepted c key)
    (hmiss : kept? svc s key = none) {v : Json} (hr : r = .ok v) (keys : List String) :
    t.cache.Behind ⟨key, v, s.now⟩ keys := by
  cases h with
  | kept haccepted' hkept =>
    obtain rfl := haccepted.key_unique haccepted'
    exact absurd (hkept.symm.trans hmiss) nofun
  | computed haccepted' _ hcache =>
    obtain rfl := haccepted.key_unique haccepted'
    obtain rfl := Except.ok.inj hr
    rw [hcache]
    exact Cache.Behind.first_set _
  | failed => exact absurd hr nofun
  | aside hother => exact absurd haccepted (hother key)

/-- An entry was there before or is the answer that is computed. -/
lemma mem_entries (h : Served svc c s t r) (he : e ∈ t.cache.entries) :
    e ∈ s.cache.entries ∨
      svc.Accepted c e.key ∧ kept? svc s e.key = none ∧ r = .ok e.value ∧ e.storedAt = s.now := by
  cases h with
  | kept _ _ hafter =>
    rw [hafter] at he
    exact Or.inl (Cache.mem_of_mem_get he)
  | computed haccepted hmiss hcache =>
    rw [hcache] at he
    rcases Cache.mem_of_mem_set he with rfl | he
    · exact Or.inr ⟨haccepted, hmiss, rfl, rfl⟩
    · exact Or.inl (Cache.mem_of_mem_get he)
  | failed _ _ hcache =>
    rw [hcache] at he
    exact Or.inl (Cache.mem_of_mem_get he)
  | aside _ hcache => exact Or.inl (hcache ▸ he)

/-- A good entry stays behind the same keys, if a call with an answer has its own key or one of
them, and they are fewer than the cache has room for. -/
lemma behind (h : Served svc c s t r) {keys : List String} (hbehind : s.cache.Behind e keys)
    (hdistinct : s.cache.Distinct) (hgood : e.Good svc.cache s.now)
    (hkeys : ∀ key v, svc.Accepted c key → r = .ok v → key = e.key ∨ key ∈ keys)
    (hroom : keys.length < max 1 svc.cache.capacity) : t.cache.Behind e keys := by
  cases h with
  | kept haccepted _ hafter =>
    rw [hafter]
    exact hbehind.get hdistinct hgood fun _ => hkeys _ _ haccepted rfl
  | @computed key v haccepted hmiss hcache =>
    have hlooked : (lookedUp svc s key).cache.Behind e keys :=
      hbehind.get hdistinct hgood fun hread => absurd hmiss hread
    have hother : key ≠ e.key := by
      rintro rfl
      have hfound := Cache.get_of_mem hdistinct hbehind.mem hgood
      exact absurd (hmiss.symm.trans (congrArg Prod.fst hfound)) nofun
    rw [hcache]
    exact hlooked.set hdistinct.get hother
      ((hkeys key v haccepted rfl).resolve_left hother) hroom
  | failed _ hmiss hcache =>
    rw [hcache]
    exact hbehind.get hdistinct hgood fun hread => absurd hmiss hread
  | aside _ hcache => exact hcache ▸ hbehind

/-- A call without an answer leaves no other entries than before, and all good ones. -/
lemma entries_of_error (h : Served svc c s t r) (hdistinct : s.cache.Distinct) {halt : Halt}
    (hr : r = .error halt) :
    t.cache.entries.Sublist s.cache.entries ∧
      ∀ e ∈ s.cache.entries, e.Good svc.cache s.now → e ∈ t.cache.entries := by
  cases h with
  | kept => exact absurd hr nofun
  | computed => exact absurd hr nofun
  | failed _ hmiss hcache =>
    rw [hcache]
    refine ⟨?_, fun e he hgood => Cache.mem_get_of_miss hdistinct hmiss he hgood⟩
    rw [lookedUp, Cache.get_eq_none hmiss]
    exact List.filter_sublist
  | aside _ hcache =>
    rw [hcache]
    exact ⟨List.Sublist.refl _, fun e he _ => he⟩

end Served

end Service

end QueryGate
