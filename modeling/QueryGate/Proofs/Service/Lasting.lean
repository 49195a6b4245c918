import QueryGate.Http.Surface
import QueryGate.Proofs.Service.Building
import QueryGate.Proofs.Service.Refusals
import QueryGate.Proofs.Sql.RowLimit

set_option relaxedAutoImplicit false
set_option autoImplicit false

/-!
# The coverage that is kept

Once a coverage is built it is kept, and no request builds it again. Requests may come in any way
and in any number, and the engine may reply as it likes. What is sent for them sets a limit on rows,
which no statement for the names of places does.

## Main definitions

* `QueryGate.Service.StaysBuilt` — a coverage stays as it is, and what is sent meanwhile sets a
  limit on rows.
* `QueryGate.Service.Later` — a state that a service comes to from another one.
* `QueryGate.Service.BuildsOnce` — the coverage is built of all that loads, and it is built once.

## Main results

* `QueryGate.Http.staysBuilt_answer` — the coverage stays through every request.
* `QueryGate.Service.coverage_buildsOnce` — so every service builds its coverage.
-/

namespace QueryGate

namespace Service

open Session

/-! ## What keeps a coverage -/

/-- A coverage that was there is there as it was, and what was sent meanwhile sets a limit on
rows. -/
def StaysBuilt (s t : State) : Prop :=
  ∀ c, s.coverage = some c → t.coverage = some c ∧
    ∃ more, t.sent = more ++ s.sent ∧
      ∀ x ∈ more, (Sql.rowLimit? x.statement.text).isSome = true

/-- So it is where neither the coverage nor what was sent changes. -/
lemma staysBuilt_of_eq {s t : State} (hcoverage : t.coverage = s.coverage)
    (hsent : t.sent = s.sent) : StaysBuilt s t := fun _ h =>
  ⟨hcoverage.trans h, [], hsent, fun _ hx => absurd hx List.not_mem_nil⟩

instance : Std.Refl StaysBuilt where
  refl _ := staysBuilt_of_eq rfl rfl

instance : IsTrans State StaysBuilt where
  trans := by
    intro s t u hst htu c hs
    obtain ⟨ht, more, hsent, hlimit⟩ := hst c hs
    obtain ⟨hu, more', hsent', hlimit'⟩ := htu c ht
    refine ⟨hu, more' ++ more, by rw [hsent', hsent, List.append_assoc], fun x hx => ?_⟩
    exact (List.mem_append.mp hx).elim (hlimit' x) (hlimit x)

variable {svc : Service}

/-- A statement with a limit on rows is sent at most. -/
lemma staysBuilt_runStatement (d : Dataset) {st : Statement}
    (h : (Sql.rowLimit? st.text).isSome = true) : (svc.runStatement d st).Leaves StaysBuilt := by
  intro s
  by_cases hadmits : Admits svc s
  · obtain ⟨result, b, hrun⟩ := ends_runStatement_of_admitted hadmits d st
    rw [hrun]
    refine fun c hc => ⟨hc, [⟨d.storage, st⟩], rfl, fun x hx => ?_⟩
    obtain rfl := List.mem_singleton.mp hx
    exact h
  · obtain ⟨failure, hrun⟩ := ends_runStatement_of_refused hadmits d st
    rw [hrun]
    exact refl_of StaysBuilt s

/-- A coverage that is there is had without a statement. -/
lemma staysBuilt_coverage : svc.coverage.Leaves StaysBuilt := by
  intro s c hc
  rw [ends_coverage_of_some hc]
  exact refl_of StaysBuilt s c hc

lemma staysBuilt_substitute (filters : List ColumnFilter) :
    (svc.substitute filters).Leaves StaysBuilt := by
  unfold substitute
  split_ifs
  · exact staysBuilt_coverage.bind fun c => Leaves.pure _
  · exact Leaves.pure _

/-! ## Operations -/

lemma staysBuilt_freshRows (d : Dataset) (q : Query) : (svc.freshRows d q).Leaves StaysBuilt :=
  (staysBuilt_substitute q.filters).bind fun _ => Leaves.ofExcept_bind fun _ hst =>
    (staysBuilt_runStatement d (Query.rowLimit?_statement hst)).bind fun _ => Leaves.pure _

lemma staysBuilt_freshComparison (d : Dataset) (c : Comparison) :
    (svc.freshComparison d c).Leaves StaysBuilt :=
  (staysBuilt_substitute c.filters).bind fun _ => Leaves.ofExcept_bind fun _ hst =>
    (staysBuilt_runStatement d (Comparison.rowLimit?_statement hst)).bind fun _ => Leaves.pure _

lemma staysBuilt_answered {operation : String} {args : Json} {compute : Session Json}
    (h : compute.Leaves StaysBuilt) : (svc.answered operation args compute).Leaves StaysBuilt :=
  leaves_answered (fun _ _ => staysBuilt_of_eq rfl rfl) h

lemma staysBuilt_query (r : QueryRequest) : (svc.query r).Leaves StaysBuilt :=
  (Leaves.ofExcept _).bind fun d => (Leaves.ofExcept _).bind fun q =>
    staysBuilt_answered (staysBuilt_freshRows d q)

lemma staysBuilt_compare (r : ComparisonRequest) : (svc.compare r).Leaves StaysBuilt := by
  refine (Leaves.ofExcept _).bind fun d => (Leaves.ofExcept _).bind fun checked => ?_
  cases checked with
  | none => exact fun s => refl_of StaysBuilt s
  | some c => exact staysBuilt_answered (staysBuilt_freshComparison d c)

lemma staysBuilt_resolve (r : ResolveRequest) : (svc.resolve r).Leaves StaysBuilt :=
  staysBuilt_coverage.bind fun _ => Leaves.pure _

/-- The coverage stays through every operation that a model may ask for. -/
lemma staysBuilt_runTool : ∀ tool, (svc.runTool tool).Leaves StaysBuilt
  | .query r => staysBuilt_query r
  | .comparison r => staysBuilt_compare r
  | .listFiles => Leaves.pure _
  | .schema _ => (Leaves.ofExcept _).bind fun d => Leaves.pure d.schema
  | .resolve r => (staysBuilt_resolve r).bind fun _ => Leaves.pure _

lemma staysBuilt_runCall (call : Chat.Call) : (svc.runCall call).Leaves StaysBuilt :=
  (Leaves.attempt ((Leaves.ofExcept _).bind staysBuilt_runTool)).bind fun _ => Leaves.pure _

/-- The coverage stays through every turn of a conversation. -/
lemma staysBuilt_chatTurn (messages : List Chat.Message) :
    (svc.chatTurn messages).Leaves StaysBuilt := by
  unfold chatTurn
  cases svc.chat with
  | none => exact fun s => refl_of StaysBuilt s
  | some chat =>
    have hline : ∀ (s : State) line now, StaysBuilt s { s with line, now } := fun _ _ _ =>
      staysBuilt_of_eq rfl rfl
    refine (leaves_completion hline chat messages).bind fun reply => ?_
    cases reply with
    | text answer => exact Leaves.pure _
    | calls calls => exact (Leaves.mapM staysBuilt_runCall calls).bind fun _ => Leaves.pure _

end Service

/-! ## Requests -/

namespace Http

open Service Service.Session

variable {svc : Service}

lemma staysBuilt_bodyOf {α : Type} (shape : Json.Shape α) (r : Request) :
    (bodyOf shape r).Leaves StaysBuilt :=
  Leaves.ofExcept _

lemma staysBuilt_refuse {α : Type} (refusal : Refusal) :
    (refuse refusal : Session α).Leaves StaysBuilt := fun s => refl_of StaysBuilt s

lemma staysBuilt_result (r : Request) : ∀ route, (result svc r route).Leaves StaysBuilt
  | .query => (staysBuilt_bodyOf _ r).bind fun _ => staysBuilt_query _
  | .comparison => (staysBuilt_bodyOf _ r).bind fun _ => staysBuilt_compare _
  | .resolve => by
    have hfound : ∀ request : ResolveRequest, Leaves StaysBuilt (do
        Session.ofExcept ((checkText request.name).mapError Refusal.failure)
        return (← svc.resolve request).toJson) := fun request =>
      (Leaves.ofExcept _).bind fun _ => (staysBuilt_resolve request).bind fun _ => Leaves.pure _
    refine (staysBuilt_bodyOf _ r).bind fun request => ?_
    split_ifs
    · exact (staysBuilt_refuse _).bind fun _ => hfound request
    · exact hfound request
  | .chat => by
    refine (staysBuilt_bodyOf _ r).bind fun messages => ?_
    split_ifs
    · exact (staysBuilt_refuse _).bind fun _ => staysBuilt_chatTurn messages
    · exact staysBuilt_chatTurn messages
  | .listFiles => Leaves.pure _
  | .schema _ => (Leaves.ofExcept _).bind fun d => Leaves.pure d.schema
  | .health => Leaves.pure _

lemma staysBuilt_respond (r : Request) (route : Route) :
    (respond svc r route).Leaves StaysBuilt := by
  refine (Leaves.attempt (staysBuilt_result r route)).bind fun result => ?_
  cases result <;> exact Leaves.pure _

lemma staysBuilt_respondDecoded (r : Request) (route : Route) :
    (respondDecoded svc r route).Leaves StaysBuilt := by
  unfold respondDecoded
  split
  · split
    · exact staysBuilt_respond r _
    · exact Leaves.pure _
  · exact staysBuilt_respond r _

/-- The coverage stays through every request. -/
theorem staysBuilt_answer (r : Request) : (answer svc r).Leaves StaysBuilt := by
  unfold answer
  split
  · exact Leaves.pure _
  · split_ifs
    · exact Leaves.pure _
    · exact (staysBuilt_respondDecoded r _).bind fun _ => Leaves.pure _
    · exact (staysBuilt_respondDecoded r _).bind fun _ => Leaves.pure _

end Http

namespace Service

open Session

variable {svc : Service} {s t : State}

/-- A state that a service comes to from another one. Requests are answered and tools are called.
Between them anything but the coverage and the record of what was sent may change: time passes, the
breaker opens and closes, the engine makes up its replies, the cache is cleared. -/
inductive Later (svc : Service) (s : State) : State → Prop
  | refl : Later svc s s
  | request {t : State} (h : Later svc s t) (r : Http.Request) :
    Later svc s ((Http.answer svc r).ends t).2
  | call {t : State} (h : Later svc s t) (tool : ToolCall) :
    Later svc s ((svc.runTool tool).ends t).2
  | meanwhile {t u : State} (h : Later svc s t) (hcoverage : u.coverage = t.coverage)
    (hsent : u.sent = t.sent) : Later svc s u

/-- The coverage stays from one state to every later one. -/
lemma Later.staysBuilt (h : Later svc s t) : StaysBuilt s t := by
  induction h with
  | refl => exact refl_of StaysBuilt s
  | request _ r ih => exact trans_of StaysBuilt ih (Http.staysBuilt_answer r _)
  | call _ tool ih => exact trans_of StaysBuilt ih (staysBuilt_runTool tool _)
  | meanwhile _ hcoverage hsent ih =>
    exact trans_of StaysBuilt ih (staysBuilt_of_eq hcoverage hsent)

/-- The coverage of a service is built of all that loads, and it is built once. -/
structure BuildsOnce (svc : Service) : Prop where
  /-- There is a column for every level of a dataset that has one. -/
  columns : ∀ d l, (d, l) ∈ coverageColumns svc.catalog ↔
    d ∈ svc.catalog.datasets ∧ d.hasColumn l.column = true
  /-- Each is listed once where each dataset is. -/
  distinct : svc.catalog.datasets.Nodup → (coverageColumns svc.catalog).Nodup
  /-- A coverage that is not there is built of what comes of the columns. -/
  built : ∀ s, s.coverage = none → Built svc s (svc.coverage.ends s)
  /-- A coverage that is there stays as it is. It is had for the asking, and nothing that is sent
  from then on is a statement for the names of places. -/
  lasting : ∀ s c, s.coverage = some c → ∀ t, Later svc s t →
    t.coverage = some c ∧ svc.coverage.ends t = (.ok c, t) ∧
      ∃ more, t.sent = more ++ s.sent ∧
        ∀ x ∈ more, ∀ column, x.statement.text ≠ (namesStatement column).text

/-- **The coverage is built of all that loads, and it is built once,** whatever the catalog is and
whatever the engine replies.

**Proof sketch.** The columns that the coverage is built of are those of the datasets with a place
in them, each once (`nodup_coverageColumns`). They are loaded one after the other, each by one
statement, and what comes of each is put together (`built_coverage`). Once it is there no request,
call or other event takes it away (`Later.staysBuilt`), and the statements that names are loaded
with have no row limit, while all those sent later have one. -/
theorem coverage_buildsOnce (svc : Service) : BuildsOnce svc where
  columns _ _ := mem_coverageColumns
  distinct := nodup_coverageColumns
  built _ := built_coverage
  lasting s c hs t hlater := by
    obtain ⟨ht, more, hsent, hlimit⟩ := hlater.staysBuilt c hs
    refine ⟨ht, ends_coverage_of_some ht, more, hsent, fun x hx column heq => ?_⟩
    have hlimited := hlimit x hx
    rw [heq, namesStatement, Statement.text, rowLimit?_distinctText, Option.isSome_none]
      at hlimited
    exact Bool.false_ne_true hlimited

end Service

end QueryGate
