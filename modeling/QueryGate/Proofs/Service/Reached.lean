import QueryGate.Proofs.Cache.Entries
import QueryGate.Proofs.Request.Accepted
import QueryGate.Proofs.Service.Coverage

set_option relaxedAutoImplicit false
set_option autoImplicit false

/-!
# Reachable states of the service

The states that a service comes to, call after call, and what its cache then holds.

## Main definitions

* `QueryGate.Service.Reached` — a state that a service comes to, with the calls made so far.
* `QueryGate.Service.Origin` — where a kept answer comes from.

## Main results

* `QueryGate.Service.Reached.origin` — every kept answer is that of a call made before, and a query
  among those had a statement.
* `QueryGate.Service.Reached.chatTurn` — a turn of a conversation comes to a reachable state.
-/

namespace QueryGate.Service

open Session

variable {svc : Service} {s : State} {R : State → State → Prop} [AllowsEngine R]

/-! ## Places in filters -/

/-- Filters without places are left as they are. -/
lemma ends_substitute_of_not {filters : List ColumnFilter}
    (h : filters.any ColumnFilter.namesPlaces = false) :
    (svc.substitute filters).ends s = (.ok (filters, []), s) := by
  rw [substitute, h]
  rfl

/-- Filters with places are resolved by the coverage. -/
lemma ends_substitute {filters : List ColumnFilter}
    (h : filters.any ColumnFilter.namesPlaces = true) :
    (svc.substitute filters).ends s =
      match svc.coverage.ends s with
      | (.ok c, t) => (.ok (svc.resolver.substitute c filters), t)
      | (.error halt, t) => (.error halt, t) := by
  rw [substitute, if_pos h, ends_bind]
  rcases svc.coverage.ends s with ⟨halt | c, t⟩ <;> rfl

/-- Resolving places stays within what asking the engine stays within. -/
lemma leaves_substitute (filters : List ColumnFilter) : (svc.substitute filters).Leaves R := by
  unfold substitute
  split_ifs
  · exact leaves_coverage.bind fun c => Leaves.pure _
  · exact Leaves.pure _

/-! ## Kept answers -/

/-- The answer kept under a key, if it is still good. -/
def kept? (svc : Service) (s : State) (key : String) : Option Json :=
  (s.cache.get svc.cache s.now key).1

/-- The state after a look into the cache. -/
def lookedUp (svc : Service) (s : State) (key : String) : State :=
  { s with cache := (s.cache.get svc.cache s.now key).2 }

/-- The cache is asked, and nothing else is. -/
lemma ends_cached (key : String) :
    (svc.cached key).ends s = (.ok (kept? svc s key), lookedUp svc s key) := rfl

/-- A kept answer is given. -/
lemma ends_answered_of_hit {operation : String} {args hit : Json} {compute : Session Json}
    (h : kept? svc s (cacheKey operation args) = some hit) :
    (svc.answered operation args compute).ends s =
      (.ok hit, lookedUp svc s (cacheKey operation args)) := by
  rw [answered, ends_bind_ok (ends_cached _), h]
  rfl

/-- Where no answer is kept, one is computed, and kept if there is one. -/
lemma ends_answered_of_miss {operation : String} {args : Json} {compute : Session Json}
    (h : kept? svc s (cacheKey operation args) = none) :
    (svc.answered operation args compute).ends s =
      match compute.ends (lookedUp svc s (cacheKey operation args)) with
      | (.ok answer, t) =>
        (.ok answer,
          { t with cache := t.cache.set svc.cache t.now (cacheKey operation args) answer })
      | (.error halt, t) => (.error halt, t) := by
  rw [answered, ends_bind_ok (ends_cached _), h]
  dsimp only
  rw [ends_bind]
  generalize compute.ends _ = out
  rcases out with ⟨halt | answer, t⟩ <;> rfl

/-- Answering changes the cache and nothing else, besides what computing the answer changes. -/
lemma leaves_answered {R : State → State → Prop} [IsTrans State R]
    (hcache : ∀ s cache, R s { s with cache }) {operation : String} {args : Json}
    {compute : Session Json} (h : compute.Leaves R) :
    (svc.answered operation args compute).Leaves R := by
  intro s
  cases hkept : kept? svc s (cacheKey operation args) with
  | some hit =>
    rw [ends_answered_of_hit hkept]
    exact hcache s _
  | none =>
    have hlooked := trans_of R (hcache s _) (h (lookedUp svc s (cacheKey operation args)))
    rw [ends_answered_of_miss hkept]
    rcases hends : compute.ends (lookedUp svc s (cacheKey operation args)) with
      ⟨halt | answer, t⟩ <;> rw [hends] at hlooked
    · exact hlooked
    · exact trans_of R hlooked (hcache t _)

/-- An operation keeps nothing but its own answer. -/
lemma mem_entries_answered {operation : String} {args : Json} {compute : Session Json}
    (hcompute : compute.Leaves SameCache) {e : CacheEntry Json}
    (he : e ∈ ((svc.answered operation args compute).ends s).2.cache.entries) :
    e ∈ s.cache.entries ∨
      e.key = cacheKey operation args ∧ ∃ t, (compute.ends t).1 = .ok e.value := by
  cases hkept : kept? svc s (cacheKey operation args) with
  | some hit =>
    rw [ends_answered_of_hit hkept] at he
    exact Or.inl (Cache.mem_of_mem_get he)
  | none =>
    rw [ends_answered_of_miss hkept] at he
    have hsame := hcompute (lookedUp svc s (cacheKey operation args))
    rcases hends : compute.ends (lookedUp svc s (cacheKey operation args)) with
      ⟨halt | answer, t⟩ <;> rw [hends] at he hsame
    · rw [show t.cache = _ from hsame] at he
      exact Or.inl (Cache.mem_of_mem_get he)
    · rcases Cache.mem_of_mem_set he with rfl | he
      · exact Or.inr ⟨rfl, _, congrArg Prod.fst hends⟩
      · rw [show t.cache = _ from hsame] at he
        exact Or.inl (Cache.mem_of_mem_get he)

/-! ## Queries and comparisons -/

/-- The answer to a query of a dataset that is not taken from the cache. -/
def freshRows (svc : Service) (d : Dataset) (q : Query) : Session Json := do
  let (filters, resolutions) ← svc.substitute q.filters
  let statement ← Session.ofExcept (Query.statement d.storage.table { q with filters } svc.reader)
  let rows ← svc.runStatement d statement
  return rowsAnswer d rows [] resolutions

/-- The answer to a comparison within a dataset that is not taken from the cache. -/
def freshComparison (svc : Service) (d : Dataset) (c : Comparison) : Session Json := do
  let (filters, resolutions) ← svc.substitute c.filters
  let statement ←
    Session.ofExcept (Comparison.statement d.storage.table { c with filters } svc.reader)
  let rows ← svc.runStatement d statement
  let years := [("base_year", Json.int c.baseYear), ("compare_year", .int c.compareYear)]
  return rowsAnswer d rows years resolutions

variable {r : QueryRequest} {d : Dataset}

/-- A query of an unknown dataset changes nothing. -/
lemma ends_query_of_unknown {failure : Failure} (h : svc.catalog.get r.fileId = .error failure) :
    (svc.query r).ends s = (.error (.failed failure), s) := by
  rw [query, h]
  exact ends_bind_error (ends_ofExcept_error failure s) _

/-- A query that is refused by its check changes nothing. -/
lemma ends_query_of_refused (hd : svc.catalog.get r.fileId = .ok d) {refusal : Refusal}
    (h : r.check svc.limits = .error refusal) :
    (svc.query r).ends s = (.error (.failed refusal.failure), s) := by
  rw [query, hd, ends_bind_ok (ends_ofExcept_ok d s), h]
  exact ends_bind_error (ends_ofExcept_error refusal.failure s) _

/-- A checked query is answered from the cache or afresh. -/
lemma ends_query (hd : svc.catalog.get r.fileId = .ok d) {q : Query}
    (h : r.check svc.limits = .ok q) :
    (svc.query r).ends s = (svc.answered "query" r.toJson (svc.freshRows d q)).ends s := by
  rw [query, hd, ends_bind_ok (ends_ofExcept_ok d s), h]
  exact ends_bind_ok (ends_ofExcept_ok q s) _

section Comparison

variable {r : ComparisonRequest}

/-- A comparison within an unknown dataset changes nothing. -/
lemma ends_compare_of_unknown {failure : Failure} (h : svc.catalog.get r.fileId = .error failure) :
    (svc.compare r).ends s = (.error (.failed failure), s) := by
  rw [compare, h]
  exact ends_bind_error (ends_ofExcept_error failure s) _

/-- A comparison that is refused by its check changes nothing. -/
lemma ends_compare_of_refused (hd : svc.catalog.get r.fileId = .ok d) {refusal : Refusal}
    (h : r.check svc.limits = .error refusal) :
    (svc.compare r).ends s = (.error (.failed refusal.failure), s) := by
  rw [compare, hd, ends_bind_ok (ends_ofExcept_ok d s), h]
  exact ends_bind_error (ends_ofExcept_error refusal.failure s) _

/-- A comparison that may have no entries changes nothing. -/
lemma ends_compare_of_none (hd : svc.catalog.get r.fileId = .ok d)
    (h : r.check svc.limits = .ok none) : (svc.compare r).ends s = (.error .crashed, s) := by
  rw [compare, hd, ends_bind_ok (ends_ofExcept_ok d s), h]
  exact ends_bind_ok (ends_ofExcept_ok none s) _

/-- A checked comparison is answered from the cache or afresh. -/
lemma ends_compare (hd : svc.catalog.get r.fileId = .ok d) {c : Comparison}
    (h : r.check svc.limits = .ok (some c)) :
    (svc.compare r).ends s =
      (svc.answered "yoy" r.toJson (svc.freshComparison d c)).ends s := by
  rw [compare, hd, ends_bind_ok (ends_ofExcept_ok d s), h]
  exact ends_bind_ok (ends_ofExcept_ok (some c) s) _

end Comparison

/-- A fresh answer to a query stays within what asking the engine stays within. -/
lemma leaves_freshRows (d : Dataset) (q : Query) : (svc.freshRows d q).Leaves R :=
  (leaves_substitute q.filters).bind fun _ => (Leaves.ofExcept _).bind fun st =>
    (leaves_runStatement d st).bind fun _ => Leaves.pure _

/-- So does a fresh answer to a comparison. -/
lemma leaves_freshComparison (d : Dataset) (c : Comparison) : (svc.freshComparison d c).Leaves R :=
  (leaves_substitute c.filters).bind fun _ => (Leaves.ofExcept _).bind fun st =>
    (leaves_runStatement d st).bind fun _ => Leaves.pure _

/-- What callers may know about a dataset is told without the engine. -/
lemma leaves_schema (fileId : String) : (svc.schema fileId).Leaves R :=
  (Leaves.ofExcept (svc.catalog.get fileId)).bind fun d => Leaves.pure d.schema

/-- So does resolving a name. -/
lemma leaves_resolve (r : ResolveRequest) : (svc.resolve r).Leaves R :=
  leaves_coverage.bind fun c => Leaves.pure (svc.resolver.resolve c r.name r.level)

/-- A query has a fresh answer only if it can be shown. -/
lemma showable_of_freshRows {q : Query} {answer : Json}
    (h : ((svc.freshRows d q).ends s).1 = .ok answer) : q.Showable := by
  obtain ⟨⟨filters, resolutions⟩, t, -, h⟩ := exists_of_ends_bind h
  obtain ⟨st, u, hst, -⟩ := exists_of_ends_bind h
  cases hstatement : Query.statement d.storage.table { q with filters } svc.reader with
  | error failure =>
    rw [hstatement] at hst
    exact absurd (congrArg Prod.fst hst) nofun
  | ok st' =>
    obtain ⟨shown, hshown, -⟩ := Query.statement_eq_ok hstatement
    obtain ⟨hnamed, hgrouped, hknown⟩ := (Query.shown_isOk_iff _).mp ⟨shown, hshown⟩
    exact ⟨hnamed, hgrouped, hknown⟩

/-! ## Reachable states -/

/-- A state that a service comes to, with the calls made so far, the last first. Between calls
anything but the cache may change: time passes, other calls reach the engine and end at the
breaker, the engine makes up its answers, the conversation goes on. The cache may be cleared. -/
inductive Reached (svc : Service) : List ToolCall → State → Prop
  | start {s : State} (hempty : s.cache = {}) : Reached svc [] s
  | call {past : List ToolCall} {s : State} (h : Reached svc past s) (c : ToolCall) :
    Reached svc (c :: past) ((svc.runTool c).ends s).2
  | meanwhile {past : List ToolCall} {s t : State} (h : Reached svc past s)
    (hcache : t.cache = s.cache ∨ t.cache = s.cache.clear) : Reached svc past t

/-- Where an answer that is kept under a key comes from: a query or a comparison asked before. The
query had a statement. -/
inductive Origin (svc : Service) (past : List ToolCall) (key : String) : Prop
  | query (r : QueryRequest) (q : Query) (hpast : .query r ∈ past)
    (hkey : key = cacheKey "query" r.toJson) (hcheck : r.check svc.limits = .ok q)
    (hshow : q.Showable)
  | comparison (r : ComparisonRequest) (hpast : .comparison r ∈ past)
    (hkey : key = cacheKey "yoy" r.toJson)

/-- More calls take no origin away. -/
lemma Origin.cons {past : List ToolCall} {key : String} (h : Origin svc past key) (c : ToolCall) :
    Origin svc (c :: past) key := by
  cases h with
  | query r q hpast hkey hcheck hshow =>
    exact .query r q (List.mem_cons_of_mem c hpast) hkey hcheck hshow
  | comparison r hpast hkey => exact .comparison r (List.mem_cons_of_mem c hpast) hkey

/-- An entry after a query was there before or is the answer to the query. -/
lemma origin_query {past : List ToolCall} (r : QueryRequest) {e : CacheEntry Json}
    (he : e ∈ ((svc.query r).ends s).2.cache.entries) :
    e ∈ s.cache.entries ∨ Origin svc (.query r :: past) e.key := by
  cases hd : svc.catalog.get r.fileId with
  | error failure =>
    rw [ends_query_of_unknown hd] at he
    exact Or.inl he
  | ok d =>
    cases hq : r.check svc.limits with
    | error refusal =>
      rw [ends_query_of_refused hd hq] at he
      exact Or.inl he
    | ok q =>
      rw [ends_query hd hq] at he
      rcases mem_entries_answered (leaves_freshRows d q) he with he | ⟨hkey, t, hanswer⟩
      · exact Or.inl he
      · exact Or.inr (.query r q List.mem_cons_self hkey hq (showable_of_freshRows hanswer))

/-- An entry after a comparison was there before or is the answer to the comparison. -/
lemma origin_compare {past : List ToolCall} (r : ComparisonRequest) {e : CacheEntry Json}
    (he : e ∈ ((svc.compare r).ends s).2.cache.entries) :
    e ∈ s.cache.entries ∨ Origin svc (.comparison r :: past) e.key := by
  cases hd : svc.catalog.get r.fileId with
  | error failure =>
    rw [ends_compare_of_unknown hd] at he
    exact Or.inl he
  | ok d =>
    cases hc : r.check svc.limits with
    | error refusal =>
      rw [ends_compare_of_refused hd hc] at he
      exact Or.inl he
    | ok checked =>
      cases checked with
      | none =>
        rw [ends_compare_of_none hd hc] at he
        exact Or.inl he
      | some c =>
        rw [ends_compare hd hc] at he
        rcases mem_entries_answered (leaves_freshComparison d c) he with he | ⟨hkey, -⟩
        · exact Or.inl he
        · exact Or.inr (.comparison r List.mem_cons_self hkey)

/-- An entry after a call was there before or comes from the call. -/
lemma origin_runTool {past : List ToolCall} (c : ToolCall) {e : CacheEntry Json}
    (he : e ∈ ((svc.runTool c).ends s).2.cache.entries) :
    e ∈ s.cache.entries ∨ Origin svc (c :: past) e.key := by
  have hsame : ∀ {x : Session Json}, x.Leaves SameCache → e ∈ (x.ends s).2.cache.entries →
      e ∈ s.cache.entries := fun hx he => (hx s : _ = s.cache) ▸ he
  cases c with
  | query r => exact origin_query r he
  | comparison r => exact origin_compare r he
  | listFiles => exact Or.inl he
  | schema fileId => exact Or.inl (hsame (leaves_schema fileId) he)
  | resolve r =>
    have hanswer : (do return (← svc.resolve r).toJson : Session Json).Leaves SameCache :=
      (leaves_resolve r).bind fun resolution => Leaves.pure resolution.toJson
    exact Or.inl (hsame hanswer he)

/-- **Every answer in the cache is that of a call made before.** -/
theorem Reached.origin {past : List ToolCall} (h : svc.Reached past s) :
    ∀ e ∈ s.cache.entries, Origin svc past e.key := by
  induction h with
  | start hempty =>
    intro e he
    rw [hempty] at he
    exact absurd he List.not_mem_nil
  | call _ c ih =>
    intro e he
    rcases origin_runTool c he with he | horigin
    · exact (ih e he).cons c
    · exact horigin
  | meanwhile _ hcache ih =>
    intro e he
    rcases hcache with hcache | hcache <;> rw [hcache] at he
    · exact ih e he
    · exact absurd he List.not_mem_nil

/-! ## Conversations -/

/-- Asking the chat service takes time and changes the network, and nothing else. -/
lemma leaves_completion {R : State → State → Prop}
    (hline : ∀ s line now, R s { s with line, now }) (chat : ChatSetup) (messages : List Chat.Message) :
    (svc.completion chat messages).Leaves R := by
  intro s
  rw [completion, ends_bind_ok (ends_get s)]
  rcases Chat.complete chat.settings chat.policy svc.jitter messages s.line with
    ⟨ending, waits, line⟩
  dsimp only
  rw [ends_bind_ok (ends_set s { s with line, now := waits.foldl (· + ·) s.now })]
  cases ending <;> exact hline s line _

/-- One call of a tool comes to a reachable state, with at most one call more. -/
lemma Reached.runCall {past : List ToolCall} (h : svc.Reached past s) (call : Chat.Call) :
    ∃ calls, svc.Reached (calls ++ past) ((svc.runCall call).ends s).2 := by
  rw [Service.runCall, snd_ends_bind (fun _ _ => rfl), snd_ends_attempt, callTool]
  cases hdecode : ToolCall.decode call.name call.arguments with
  | error refusal =>
    rw [Except.mapError.eq_1, ends_bind_error (ends_ofExcept_error _ s)]
    exact ⟨[], h⟩
  | ok c =>
    rw [Except.mapError.eq_2, ends_bind_ok (ends_ofExcept_ok c s)]
    exact ⟨[c], h.call c⟩

/-- Calls of tools one after the other come to a reachable state. -/
lemma Reached.runCalls : ∀ (calls : List Chat.Call) {past : List ToolCall} {s : State},
    svc.Reached past s → ∃ more, svc.Reached (more ++ past) ((calls.mapM svc.runCall).ends s).2
  | [], past, s, h => ⟨[], h⟩
  | c :: calls, past, s, h => by
    obtain ⟨first, hfirst⟩ := h.runCall c
    rw [List.mapM_cons, ends_bind]
    rcases hends : (svc.runCall c).ends s with ⟨halt | answer, t⟩ <;> rw [hends] at hfirst
    · exact ⟨first, hfirst⟩
    · obtain ⟨more, hmore⟩ := Reached.runCalls calls hfirst
      rw [← List.append_assoc] at hmore
      dsimp only
      rw [snd_ends_bind (fun _ _ => rfl)]
      exact ⟨more ++ first, hmore⟩

/-- **A turn of a conversation comes to a reachable state.** -/
theorem Reached.chatTurn {past : List ToolCall} (h : svc.Reached past s)
    (messages : List Chat.Message) :
    ∃ calls, svc.Reached (calls ++ past) ((svc.chatTurn messages).ends s).2 := by
  unfold Service.chatTurn
  cases svc.chat with
  | none => exact ⟨[], h⟩
  | some chat =>
    dsimp only
    have hcache : SameCache s ((svc.completion chat messages).ends s).2 :=
      leaves_completion (fun _ _ _ => rfl) chat messages s
    rw [ends_bind]
    rcases hends : (svc.completion chat messages).ends s with ⟨halt | reply, t⟩ <;>
      rw [hends] at hcache
    · exact ⟨[], h.meanwhile (Or.inl hcache)⟩
    · have ht : svc.Reached past t := h.meanwhile (Or.inl hcache)
      cases reply with
      | text answer => exact ⟨[], ht⟩
      | calls calls =>
        dsimp only
        rw [snd_ends_bind (fun _ _ => rfl)]
        exact ht.runCalls calls

end QueryGate.Service
