import QueryGate.Proofs.Service.Reached
import QueryGate.Proofs.Sql.RowLimit

set_option relaxedAutoImplicit false
set_option autoImplicit false

/-!
# Steps without a value

A step of a request ends without a value for one of two reasons: it fails, and its caller is told of
the failure, or it is given up because the engine stays silent. Only limits that allow no row leave
a step without any end.

## Main definitions

* `QueryGate.Service.Settled` — an end with a value, or one for one of the two reasons.
* `QueryGate.Service.Session.Settles` — a step that always ends so.

## Main results

* `QueryGate.Service.Session.Settles.bind`, `QueryGate.Service.Session.Settles.foldlM` — steps in a
  row end so when each of them does.
* `QueryGate.Service.settles_runTool` — every operation that a model may ask for ends so where a row
  is allowed.
-/

namespace QueryGate.Service

open Session

/-! ## Ends -/

/-- A step that was taken from a state has ended with a value, with a failure, or in front of an
engine that stays silent; and it has used up some of the replies. -/
inductive Settled {α : Type} (s : State) : Except Halt α × State → Prop
  /-- There is a value. -/
  | value {a : α} {t : State} (hused : t.replies <:+ s.replies) : Settled s (.ok a, t)
  /-- The caller is told of a failure. -/
  | failed {failure : Failure} {t : State} (hused : t.replies <:+ s.replies) :
    Settled s (.error (.failed failure), t)
  /-- One of the replies is silence. -/
  | abandoned {t : State} (hused : t.replies <:+ s.replies) (hsilent : .silence ∈ s.replies) :
    Settled s (.error .abandoned, t)

variable {α β : Type} {s t : State}

/-- Some of the replies were used up. -/
lemma Settled.used {out : Except Halt α × State} : Settled s out → out.2.replies <:+ s.replies
  | .value hused => hused
  | .failed hused => hused
  | .abandoned hused _ => hused

/-- What has settled since some replies were used up has settled since before. -/
lemma Settled.since {out : Except Halt α × State} (h : Settled t out)
    (hused : t.replies <:+ s.replies) : Settled s out := by
  cases h with
  | value h => exact .value (h.trans hused)
  | failed h => exact .failed (h.trans hused)
  | abandoned h hsilent => exact .abandoned (h.trans hused) (hused.subset hsilent)

/-- A step settles from every state. -/
def Session.Settles (x : Session α) : Prop := ∀ s, Settled s (x.ends s)

namespace Session.Settles

/-- A value. -/
lemma pure (a : α) : Settles (Pure.pure a : Session α) := fun _ => .value List.suffix_rfl

/-- A value or a failure. -/
lemma ofExcept : ∀ x : Except Failure α, Settles (Session.ofExcept x)
  | .ok _ => fun _ => .value List.suffix_rfl
  | .error _ => fun _ => .failed List.suffix_rfl

/-- The state itself. -/
lemma get : Settles (MonadState.get : Session State) := fun _ => .value List.suffix_rfl

/-- A changed state with the same replies. -/
lemma modify {f : State → State} (hf : ∀ s, (f s).replies = s.replies) :
    Settles (modify f : Session Unit) := fun s => .value (hf s ▸ List.suffix_rfl)

/-- Two steps in a row. -/
lemma bind {x : Session α} {f : α → Session β} (hx : x.Settles) (hf : ∀ a, (f a).Settles) :
    (x >>= f).Settles := by
  intro s
  have hfirst := hx s
  rw [ends_bind]
  generalize x.ends s = out at hfirst ⊢
  cases hfirst with
  | value hused => exact (hf _ _).since hused
  | failed hused => exact .failed hused
  | abandoned hused hsilent => exact .abandoned hused hsilent

/-- The end of a step as a value. -/
lemma attempt {x : Session α} (hx : x.Settles) : (Session.attempt x).Settles := by
  intro s
  have hstep := hx s
  rw [ends_attempt]
  generalize x.ends s = out at hstep ⊢
  cases hstep with
  | value hused => exact .value hused
  | failed hused => exact .value hused
  | abandoned hused hsilent => exact .abandoned hused hsilent

/-- A step for each member of a list. -/
lemma foldlM {f : β → α → Session β} (hf : ∀ b a, (f b a).Settles) :
    ∀ (xs : List α) (b : β), (xs.foldlM f b).Settles
  | [], b => pure b
  | x :: xs, b => by
    rw [List.foldlM_cons]
    exact (hf b x).bind fun b' => foldlM hf xs b'

end Session.Settles

/-! ## Statements and the coverage -/

variable {svc : Service}

/-- The engine is silent only where that was its reply. -/
lemma silence_mem_of_reply (h : s.reply = .silence) : .silence ∈ s.replies := by
  unfold State.reply at h
  split at h
  · next heq => exact heq ▸ h ▸ List.mem_cons_self
  · exact absurd h nofun

/-- A statement settles. -/
lemma settles_runStatement (d : Dataset) (st : Statement) : (svc.runStatement d st).Settles := by
  intro s
  rw [runStatement, ends_bind_ok (ends_get s)]
  cases s.breaker.arrive svc.breaker s.now with
  | refused after => exact .failed List.suffix_rfl
  | admitted trial b =>
    have hused : s.replies.tail <:+ s.replies := List.tail_suffix _
    dsimp only
    cases hreply : s.reply with
    | rows rows => exact .value hused
    | fault fault => exact .failed hused
    | silence => exact .abandoned hused (silence_mem_of_reply hreply)

/-- Loading a column settles. -/
lemma settles_loadColumn (building : Building) (column : Dataset × Level) :
    (loadColumn svc building column).Settles := by
  unfold loadColumn
  refine (Settles.attempt ?_).bind fun loaded => ?_
  · exact (Settles.ofExcept _).bind fun st => settles_runStatement _ st
  · cases loaded <;> exact Settles.pure _

/-- Asking for the coverage settles. -/
lemma settles_coverage : svc.coverage.Settles := by
  unfold coverage
  refine Settles.get.bind fun s => ?_
  cases s.coverage with
  | some c => exact Settles.pure c
  | none =>
    refine (Settles.foldlM settles_loadColumn (coverageColumns svc.catalog) {}).bind fun b => ?_
    split_ifs
    · exact Settles.pure _
    · refine (Settles.modify ?_).bind fun _ => Settles.pure _
      exact fun _ => rfl

/-- Resolving places settles. -/
lemma settles_substitute (filters : List ColumnFilter) : (svc.substitute filters).Settles := by
  unfold substitute
  split_ifs
  · exact settles_coverage.bind fun c => Settles.pure _
  · exact Settles.pure _

/-! ## Operations -/

/-- A fresh answer to a query settles. -/
lemma settles_freshRows (d : Dataset) (q : Query) : (svc.freshRows d q).Settles :=
  (settles_substitute q.filters).bind fun _ => (Settles.ofExcept _).bind fun st =>
    (settles_runStatement d st).bind fun _ => Settles.pure _

/-- So does a fresh answer to a comparison. -/
lemma settles_freshComparison (d : Dataset) (c : Comparison) :
    (svc.freshComparison d c).Settles :=
  (settles_substitute c.filters).bind fun _ => (Settles.ofExcept _).bind fun st =>
    (settles_runStatement d st).bind fun _ => Settles.pure _

/-- An answer that may be kept settles if a fresh one does. -/
lemma settles_answered {operation : String} {args : Json} {compute : Session Json}
    (hcompute : compute.Settles) : (svc.answered operation args compute).Settles := by
  -- Looking into the cache and keeping an answer use up no reply.
  have hcached : ∀ key, (svc.cached key).Settles := fun _ _ => .value List.suffix_rfl
  have hkeep : ∀ key answer, (svc.keep key answer).Settles := fun _ _ _ => .value List.suffix_rfl
  unfold answered
  refine (hcached _).bind fun kept => ?_
  cases kept with
  | some hit => exact Settles.pure hit
  | none => exact hcompute.bind fun answer => (hkeep _ answer).bind fun _ => Settles.pure answer

/-- A query settles. -/
lemma settles_query (r : QueryRequest) : (svc.query r).Settles :=
  (Settles.ofExcept _).bind fun d => (Settles.ofExcept _).bind fun q =>
    settles_answered (settles_freshRows d q)

/-- A comparison settles where a row is allowed. -/
lemma settles_compare (hroom : 1 ≤ svc.limits.maxRows) (r : ComparisonRequest) :
    (svc.compare r).Settles := by
  intro s
  cases hd : svc.catalog.get r.fileId with
  | error failure =>
    rw [ends_compare_of_unknown hd]
    exact .failed List.suffix_rfl
  | ok d =>
    cases hc : r.check svc.limits with
    | error refusal =>
      rw [ends_compare_of_refused hd hc]
      exact .failed List.suffix_rfl
    | ok checked =>
      cases checked with
      | none => exact absurd hc (ComparisonRequest.check_ne_none hroom)
      | some c =>
        rw [ends_compare hd hc]
        exact settles_answered (settles_freshComparison d c) s

/-- **Every operation that a model may ask for settles where a row is allowed.** -/
theorem settles_runTool (hroom : 1 ≤ svc.limits.maxRows) : ∀ tool, (svc.runTool tool).Settles
  | .query r => settles_query r
  | .comparison r => settles_compare hroom r
  | .listFiles => Settles.pure _
  | .schema _ => (Settles.ofExcept _).bind fun d => Settles.pure d.schema
  | .resolve _ => (settles_coverage.bind fun _ => Settles.pure _).bind fun _ => Settles.pure _

end QueryGate.Service
