import QueryGate.Proofs.Service.Run
import QueryGate.Proofs.Sql.Places
import QueryGate.Service.Operations

set_option relaxedAutoImplicit false
set_option autoImplicit false

/-!
# What building the coverage does

A request that names a place asks for the coverage, which may be built then and there, with one
statement for each column that holds names of places. The breaker decides whether the first of
them reaches the engine.

## Main definitions

* `QueryGate.Service.AllowsSending`, `QueryGate.Service.AllowsEngine` — a relation that sending
  statements, and asking for the coverage as well, stays within.
* `QueryGate.Service.SameCache`, `QueryGate.Service.SameTime`, `QueryGate.Service.SentGrows`,
  `QueryGate.Service.SameCoverage`, `QueryGate.Service.KeepsCoverage`,
  `QueryGate.Service.Consumes` — such relations, on the cache, the time, the statements sent, the
  coverage, and the replies used up.
* `QueryGate.Service.BuildsCoverage` — asking for the coverage would send a statement.

## Main results

* `QueryGate.Service.leaves_coverage` — asking for the coverage stays within what asking the engine
  stays within.
* `QueryGate.Service.coverage_quiet` — the coverage is had without sending anything, unless it has
  to be built and the breaker lets a statement through.
* `QueryGate.Service.coverage_builds` — otherwise a statement is sent.
-/

namespace QueryGate.Service

open Session

/-! ## What the engine leaves alone -/

/-- A relation between states that sending statements stays within: they go through the breaker,
and each uses up a reply. -/
class AllowsSending (R : State → State → Prop) : Prop extends Std.Refl R, IsTrans State R where
  /-- A statement is sent and answered. -/
  sends (s : State) (b : Breaker) (x : Sent) :
    R s { s with breaker := b, replies := s.replies.tail, sent := x :: s.sent }

/-- A relation between states that asking the engine stays within: statements are sent, and a
coverage is built where there is none. -/
class AllowsEngine (R : State → State → Prop) : Prop extends AllowsSending R where
  /-- A coverage is built. -/
  covers (s : State) (c : Coverage) (h : s.coverage = none) : R s { s with coverage := some c }

/-- The cache is as before. -/
def SameCache (s t : State) : Prop := t.cache = s.cache

/-- No time has passed. -/
def SameTime (s t : State) : Prop := t.now = s.now

/-- What was sent before is still on record. -/
def SentGrows (s t : State) : Prop := s.sent <:+ t.sent

/-- The coverage is as before. -/
def SameCoverage (s t : State) : Prop := t.coverage = s.coverage

/-- A coverage that was there is there as it was. -/
def KeepsCoverage (s t : State) : Prop := ∀ c, s.coverage = some c → t.coverage = some c

/-- Every statement that was sent has used up one reply. -/
def Consumes (s t : State) : Prop :=
  ∃ more, t.sent = more ++ s.sent ∧ t.replies = s.replies.drop more.length

instance : AllowsEngine SameCache where
  refl _ := rfl
  trans _ _ _ h h' := Eq.trans h' h
  sends _ _ _ := rfl
  covers _ _ _ := rfl

instance : AllowsEngine SameTime where
  refl _ := rfl
  trans _ _ _ h h' := Eq.trans h' h
  sends _ _ _ := rfl
  covers _ _ _ := rfl

instance : AllowsEngine SentGrows where
  refl _ := List.suffix_rfl
  trans _ _ _ h h' := List.IsSuffix.trans h h'
  sends _ _ _ := List.suffix_cons _ _
  covers _ _ _ := List.suffix_rfl

instance : AllowsSending SameCoverage where
  refl _ := rfl
  trans _ _ _ h h' := Eq.trans h' h
  sends _ _ _ := rfl

instance : AllowsEngine KeepsCoverage where
  refl _ _ h := h
  trans _ _ _ h h' c hc := h' c (h c hc)
  sends _ _ _ _ h := h
  covers _ _ h _ hc := absurd (h.symm.trans hc) nofun

instance : AllowsEngine Consumes where
  refl _ := ⟨[], rfl, rfl⟩
  trans := by
    rintro s t u ⟨more, hsent, hreplies⟩ ⟨more', hsent', hreplies'⟩
    refine ⟨more' ++ more, ?_, ?_⟩
    · rw [hsent', hsent, List.append_assoc]
    · rw [hreplies', hreplies, List.drop_drop, List.length_append, Nat.add_comm]
  sends _ _ x := ⟨[x], rfl, List.drop_one.symm⟩
  covers _ _ _ := ⟨[], rfl, rfl⟩

/-! ## Statements -/

variable {R : State → State → Prop} [AllowsSending R]

variable {svc : Service} {s : State}

/-- Whether the breaker lets a call through now. -/
def Admits (svc : Service) (s : State) : Prop :=
  ∃ trial b, s.breaker.arrive svc.breaker s.now = .admitted trial b

/-- A call that the breaker does not let through fails and leaves all as it was. -/
lemma ends_runStatement_of_refused (h : ¬Admits svc s) (d : Dataset) (st : Statement) :
    ∃ failure, (svc.runStatement d st).ends s = (.error (.failed failure), s) := by
  cases harrive : s.breaker.arrive svc.breaker s.now with
  | admitted trial b => exact absurd ⟨trial, b, harrive⟩ h
  | refused after =>
    refine ⟨refusedByBreaker after, ?_⟩
    rw [runStatement, ends_bind_ok (ends_get s), harrive]
    rfl

/-- A call that the breaker lets through is sent. It changes the breaker and nothing else. -/
lemma ends_runStatement_of_admitted (h : Admits svc s) (d : Dataset) (st : Statement) :
    ∃ r b, (svc.runStatement d st).ends s =
      (r, { s with
        breaker := b, replies := s.replies.tail, sent := ⟨d.storage, st⟩ :: s.sent }) := by
  obtain ⟨trial, b, harrive⟩ := h
  rw [runStatement, ends_bind_ok (ends_get s), harrive]
  dsimp only
  cases s.reply with
  | rows rows => exact ⟨.ok rows, _, rfl⟩
  | fault fault => exact ⟨.error (.failed fault.failure), _, rfl⟩
  | silence => exact ⟨.error .abandoned, _, rfl⟩

/-- A statement stays within what sending statements stays within. -/
lemma leaves_runStatement (d : Dataset) (st : Statement) : (svc.runStatement d st).Leaves R := by
  intro s
  by_cases h : Admits svc s
  · obtain ⟨r, b, hends⟩ := ends_runStatement_of_admitted h d st
    rw [hends]
    exact AllowsSending.sends s b _
  · obtain ⟨failure, hends⟩ := ends_runStatement_of_refused h d st
    rw [hends]
    exact refl_of R s

/-! ## Columns -/

/-- There is a statement for the names of every level. -/
lemma coverageStatement_isOk (svc : Service) (d : Dataset) (level : Level) :
    ∃ st, coverageStatement svc.reader d level = .ok st := by
  have hcolumn : ∃ c, Ident.column level.column = .ok c := by
    cases level
    · exact ⟨⟨"country_name", by decide⟩, rfl⟩
    · exact ⟨⟨"admin1_name", by decide⟩, rfl⟩
    · exact ⟨⟨"city_name", by decide⟩, rfl⟩
  obtain ⟨c, hc⟩ := hcolumn
  refine ⟨⟨distinctText d.storage.table c, []⟩, ?_⟩
  rw [coverageStatement, hc, Except.mapError.eq_2, Outcome.ok_bind,
    distinctStatement_of_taken (svc.taken.distinct _ _)]

/-- Loading a column leaves the state that its statement leaves. -/
lemma snd_ends_loadColumn (building : Building) (column : Dataset × Level) (s : State) :
    ∃ st, ((loadColumn svc building column).ends s).2 =
      ((svc.runStatement column.1 st).ends s).2 := by
  obtain ⟨st, hst⟩ := svc.coverageStatement_isOk column.1 column.2
  refine ⟨st, ?_⟩
  rw [loadColumn, snd_ends_bind (fun loaded t => by cases loaded <;> rfl), snd_ends_attempt, hst,
    ends_bind_ok (ends_ofExcept_ok st s)]

/-- A column that the breaker keeps from being loaded is passed over. -/
lemma ends_loadColumn_of_refused (h : ¬Admits svc s) (building : Building)
    (column : Dataset × Level) :
    (loadColumn svc building column).ends s =
      (.ok { building with skipped := building.skipped + 1 }, s) := by
  obtain ⟨st, hst⟩ := svc.coverageStatement_isOk column.1 column.2
  obtain ⟨failure, hrun⟩ := ends_runStatement_of_refused h column.1 st
  have hload : (attempt (do
      let statement ← Session.ofExcept (coverageStatement svc.reader column.1 column.2)
      svc.runStatement column.1 statement)).ends s = (.ok (.error failure), s) := by
    rw [ends_attempt, hst, ends_bind_ok (ends_ofExcept_ok st s), hrun]
  rw [loadColumn]
  exact ends_bind_ok hload _

/-- A column that the breaker lets through sends a statement. -/
lemma sent_loadColumn_of_admitted (h : Admits svc s) (building : Building)
    (column : Dataset × Level) :
    ∃ x, ((loadColumn svc building column).ends s).2.sent = x :: s.sent := by
  obtain ⟨st, hsnd⟩ := snd_ends_loadColumn building column s
  obtain ⟨r, b, hrun⟩ := ends_runStatement_of_admitted h column.1 st
  exact ⟨⟨column.1.storage, st⟩, by rw [hsnd, hrun]⟩

/-- Loading a column stays within what sending statements stays within. -/
lemma leaves_loadColumn (svc : Service) (building : Building) (column : Dataset × Level) :
    (loadColumn svc building column).Leaves R := by
  intro s
  obtain ⟨st, hsnd⟩ := snd_ends_loadColumn building column s
  rw [hsnd]
  exact leaves_runStatement column.1 st s

/-- Columns that the breaker keeps from being loaded are all passed over. -/
lemma ends_loadColumns_of_refused (h : ¬Admits svc s) :
    ∀ (columns : List (Dataset × Level)) (building : Building),
      (columns.foldlM (loadColumn svc) building).ends s =
        (.ok { building with skipped := building.skipped + columns.length }, s)
  | [], building => rfl
  | column :: rest, building => by
    rw [List.foldlM_cons, ends_bind_ok (ends_loadColumn_of_refused h building column),
      ends_loadColumns_of_refused h rest, List.length_cons, Nat.add_assoc, Nat.add_comm 1]

/-- The first column that the breaker lets through sends a statement. -/
lemma sent_loadColumns_of_admitted (h : Admits svc s) {columns : List (Dataset × Level)}
    (hsome : columns ≠ []) (building : Building) :
    ∃ x, x :: s.sent <:+ ((columns.foldlM (loadColumn svc) building).ends s).2.sent := by
  obtain ⟨column, rest, rfl⟩ := List.exists_cons_of_ne_nil hsome
  obtain ⟨x, hx⟩ := sent_loadColumn_of_admitted h building column
  refine ⟨x, ?_⟩
  rw [List.foldlM_cons, ends_bind]
  rcases hends : (loadColumn svc building column).ends s with ⟨halt | b, t⟩ <;>
    rw [hends] at hx <;> dsimp only at hx ⊢
  · exact hx ▸ List.suffix_rfl
  · have hgrows : SentGrows t _ := Leaves.foldlM (leaves_loadColumn svc) rest b t
    exact hx ▸ hgrows

/-! ## Coverage -/

/-- Asking for the coverage would send a statement: it is not there yet, some column holds names of
places, and the breaker lets a call through. -/
def BuildsCoverage (svc : Service) (s : State) : Prop :=
  s.coverage = none ∧ coverageColumns svc.catalog ≠ [] ∧ Admits svc s

/-- A coverage that is there is had as it is. -/
lemma ends_coverage_of_some {c : Coverage} (h : s.coverage = some c) :
    svc.coverage.ends s = (.ok c, s) := by
  rw [coverage, ends_bind_ok (ends_get s), h]
  rfl

/-- The coverage of a finished building, and the coverage kept from then on. -/
def Building.finish (building : Building) (kept : Option Coverage) :
    Coverage × Option Coverage :=
  if building.loaded = 0 && 0 < building.skipped then (.empty, kept)
  else (Coverage.ofEntries building.entries, some (Coverage.ofEntries building.entries))

/-- A coverage that is not there is built from its columns, and may be kept. -/
lemma ends_coverage_of_none (svc : Service) (h : s.coverage = none) :
    svc.coverage.ends s =
      match ((coverageColumns svc.catalog).foldlM (loadColumn svc) {}).ends s with
      | (.ok building, t) =>
        (.ok (building.finish t.coverage).1,
          { t with coverage := (building.finish t.coverage).2 })
      | (.error halt, t) => (.error halt, t) := by
  rw [coverage, ends_bind_ok (ends_get s), h]
  dsimp only
  rw [ends_bind]
  rcases ((coverageColumns svc.catalog).foldlM (loadColumn svc) {}).ends s with
    ⟨halt | building, t⟩
  · rfl
  · dsimp only [Building.finish]
    split_ifs <;> rfl

/-- Asking for the coverage stays within what asking the engine stays within. -/
lemma leaves_coverage {R : State → State → Prop} [AllowsEngine R] : svc.coverage.Leaves R := by
  intro s
  cases h : s.coverage with
  | some c =>
    rw [ends_coverage_of_some h]
    exact refl_of R s
  | none =>
    have hcolumns : R s _ :=
      Leaves.foldlM (leaves_loadColumn svc) (coverageColumns svc.catalog) {} s
    have hnone : SameCoverage s _ :=
      Leaves.foldlM (leaves_loadColumn svc) (coverageColumns svc.catalog) {} s
    rw [ends_coverage_of_none svc h]
    rcases hload : ((coverageColumns svc.catalog).foldlM (loadColumn svc) {}).ends s with
      ⟨halt | building, t⟩ <;> rw [hload] at hcolumns hnone
    · exact hcolumns
    · dsimp only [Building.finish]
      split_ifs
      · exact hcolumns
      · exact trans_of R hcolumns (AllowsEngine.covers t _ (hnone.trans h))

/-- The coverage is had without sending anything, unless a statement would be sent for it. -/
theorem coverage_quiet (h : ¬BuildsCoverage svc s) :
    ∃ c t, svc.coverage.ends s = (.ok c, t) ∧ t.sent = s.sent ∧ t.breaker = s.breaker := by
  cases hcoverage : s.coverage with
  | some c => exact ⟨c, s, ends_coverage_of_some hcoverage, rfl, rfl⟩
  | none =>
    have hload : ∃ building,
        ((coverageColumns svc.catalog).foldlM (loadColumn svc) {}).ends s = (.ok building, s) := by
      by_cases hcolumns : coverageColumns svc.catalog = []
      · exact ⟨{}, by rw [hcolumns]; rfl⟩
      · have hrefused : ¬Admits svc s := fun hadmits => h ⟨hcoverage, hcolumns, hadmits⟩
        exact ⟨_, ends_loadColumns_of_refused hrefused _ {}⟩
    obtain ⟨building, hload⟩ := hload
    have hends := ends_coverage_of_none svc hcoverage
    rw [hload] at hends
    exact ⟨_, _, hends, rfl, rfl⟩

/-- A coverage that has to be built sends a statement. -/
theorem coverage_builds (h : BuildsCoverage svc s) :
    ∃ x, x :: s.sent <:+ (svc.coverage.ends s).2.sent := by
  obtain ⟨hnone, hcolumns, hadmits⟩ := h
  obtain ⟨x, hx⟩ := sent_loadColumns_of_admitted hadmits hcolumns {}
  refine ⟨x, ?_⟩
  rw [ends_coverage_of_none svc hnone]
  rcases hload : ((coverageColumns svc.catalog).foldlM (loadColumn svc) {}).ends s with
    ⟨halt | building, t⟩ <;> rw [hload] at hx
  · exact hx
  · exact hx

end QueryGate.Service
