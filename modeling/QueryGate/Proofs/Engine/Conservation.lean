import Mathlib.Data.List.Nodup
import Mathlib.Data.List.Perm.Basic
import QueryGate.Engine.PoolUse

set_option relaxedAutoImplicit false
set_option autoImplicit false

/-!
# Conservation of connections

Permits and connections are taken one after the other and given back the other way round, so that
between any two steps the free permits, with those of callers that have no connection yet, are
covered by idle connections. No connection is lost, made up or shared on the way.

## Main definitions

* `QueryGate.PoolUse.checkedOut`, `QueryGate.PoolUse.permitsOut` — the connections and the permits
  that callers have.
* `QueryGate.PoolUse.Stepped` — all that a step can do, case by case.
* `QueryGate.PoolUse.Conserved` — every connection and every permit is in one place.

## Main results

* `QueryGate.PoolUse.Conserved.step` — no step loses anything.
* `QueryGate.PoolUse.Conserved.covered` — free permits and waiting ones are covered.
* `QueryGate.PoolUse.conserves_connections` — what callers can rely on after any steps.
-/

namespace QueryGate

namespace CallerPhase

/-- The connection that a caller has. -/
def connection? : CallerPhase → Option Connection
  | connected c => some c
  | _ => none

/-- Whether a caller has a permit. -/
def hasPermit : CallerPhase → Bool
  | waiting => false
  | _ => true

end CallerPhase

namespace PoolUse

variable {u u' : PoolUse} {e : Event} {caller n : Nat} {phase : CallerPhase}
  {callers callers' : List (Nat × CallerPhase)}

/-! ## What callers have -/

/-- The connections that callers have. -/
def checkedOut (callers : List (Nat × CallerPhase)) : List Connection :=
  callers.filterMap (·.2.connection?)

/-- The number of permits that callers have. -/
def permitsOut (callers : List (Nat × CallerPhase)) : Nat := callers.countP (·.2.hasPermit)

/-- One caller more has its connection more. -/
@[simp] lemma checkedOut_cons : checkedOut ((caller, phase) :: callers) =
    phase.connection?.toList ++ checkedOut callers := by
  unfold checkedOut
  cases h : phase.connection? <;> simp [h]

/-- One caller more has its permit more. -/
@[simp] lemma permitsOut_cons : permitsOut ((caller, phase) :: callers) =
    permitsOut callers + if phase.hasPermit then 1 else 0 :=
  List.countP_cons

/-- The order of callers does not matter for their connections. -/
lemma checkedOut_perm (h : callers.Perm callers') :
    (checkedOut callers).Perm (checkedOut callers') := h.filterMap _

/-- The order of callers does not matter for their permits. -/
lemma permitsOut_perm (h : callers.Perm callers') : permitsOut callers = permitsOut callers' :=
  h.countP_eq _

/-- Every caller with a connection has a permit, and so does every caller that has just got one. -/
lemma length_checkedOut_add_le : ∀ callers : List (Nat × CallerPhase),
    (checkedOut callers).length + callers.countP (·.2 = .permitted) ≤ permitsOut callers
  | [] => Nat.le_refl _
  | (caller, phase) :: rest => by
    have ih := length_checkedOut_add_le rest
    cases phase <;> simp [CallerPhase.connection?, CallerPhase.hasPermit] <;> omega

/-- A caller stands apart from the others, where no two have the same number. -/
lemma perm_of_lookup (hdistinct : (callers.map Prod.fst).Nodup)
    (h : callers.lookup caller = some phase) :
    callers.Perm ((caller, phase) :: callers.filter (·.1 != caller)) := by
  obtain ⟨first, rest, rfl, -⟩ := List.lookup_eq_some_iff.mp h
  have hothers : ∀ x ∈ first ++ rest, (x.1 != caller) = true := by
    have hnodup := (List.perm_middle.map Prod.fst).nodup_iff.mp hdistinct
    intro x hx
    have hne : x.1 ≠ caller := fun heq =>
      (List.nodup_cons.mp hnodup).1 (List.mem_map.mpr ⟨x, hx, heq⟩)
    simpa using hne
  have hfilter : (first ++ (caller, phase) :: rest).filter (·.1 != caller) = first ++ rest := by
    rw [List.filter_append, List.filter_cons_of_neg (by simp), ← List.filter_append,
      List.filter_eq_self.mpr hothers]
  rw [hfilter]
  exact List.perm_middle

/-- Where a caller is not there, the others are all. -/
lemma filter_of_lookup_eq_none (h : callers.lookup caller = none) :
    callers.filter (·.1 != caller) = callers := by
  refine List.filter_eq_self.mpr fun x hx => ?_
  have hne := List.lookup_eq_none_iff.mp h x hx
  simpa [bne_comm] using hne

/-- Callers keep numbers of their own when one of them is put first anew. -/
lemma nodup_cons_filter (hdistinct : (callers.map Prod.fst).Nodup) (phase : CallerPhase) :
    (((caller, phase) :: callers.filter (·.1 != caller)).map Prod.fst).Nodup := by
  rw [List.map_cons, List.nodup_cons]
  refine ⟨fun hmem => ?_, hdistinct.sublist (List.filter_sublist.map Prod.fst)⟩
  obtain ⟨x, hx, heq⟩ := List.mem_map.mp hmem
  simpa [heq] using (List.mem_filter.mp hx).2

/-! ## One step -/

/-- All that a step can do, case by case. -/
inductive Stepped (u : PoolUse) : Event → PoolUse → Prop
  /-- A caller that is not there yet waits. -/
  | arrived {caller : Nat} (h : u.callers.lookup caller = none) :
    Stepped u (.arrive caller) (u.move caller .waiting u.pool)
  /-- A caller that waits takes one of the free permits. -/
  | permitted {caller permits : Nat} (h : u.callers.lookup caller = some .waiting)
    (hpermits : u.pool.permits = permits + 1) :
    Stepped u (.permit caller) (u.move caller .permitted { u.pool with permits })
  /-- A caller that waits leaves. -/
  | expired {caller : Nat} (h : u.callers.lookup caller = some .waiting) :
    Stepped u (.expire caller) (u.remove caller u.pool)
  /-- A caller with a permit takes the first of the idle connections. -/
  | connected {caller : Nat} {c : Connection} {idle : List Connection}
    (h : u.callers.lookup caller = some .permitted) (hidle : u.pool.idle = c :: idle) :
    Stepped u (.connect caller) (u.move caller (.connected c) { u.pool with idle })
  /-- A caller gives back its connection. -/
  | putBack {caller : Nat} {c : Connection} (h : u.callers.lookup caller = some (.connected c)) :
    Stepped u (.putBack caller) (u.move caller .returning (u.pool.putConnection c))
  /-- A caller that has given back its connection gives back its permit. -/
  | left {caller : Nat} (h : u.callers.lookup caller = some .returning) :
    Stepped u (.leave caller) (u.remove caller u.pool.putPermit)

/-- **A step does one of the things listed.** -/
theorem stepped_of_step (h : u.step e = some u') : Stepped u e u' := by
  cases e with
  | arrive caller =>
    cases hcaller : u.callers.lookup caller with
    | none =>
      simp only [step, hcaller, Option.some.injEq] at h
      exact h ▸ .arrived hcaller
    | some phase => simp [step, hcaller] at h
  | permit caller =>
    simp only [step] at h
    split at h
    · rename_i hcaller
      obtain ⟨pool, hpool, rfl⟩ := Option.map_eq_some_iff.mp h
      cases hpermits : u.pool.permits with
      | zero => simp [Pool.takePermit?, hpermits] at hpool
      | succ permits =>
        obtain rfl : { u.pool with permits } = pool := by
          simpa [Pool.takePermit?, hpermits] using hpool
        exact .permitted hcaller hpermits
    · exact absurd h nofun
  | expire caller =>
    simp only [step] at h
    split at h
    · rename_i hcaller
      exact Option.some.inj h ▸ .expired hcaller
    · exact absurd h nofun
  | connect caller =>
    simp only [step] at h
    split at h
    · rename_i hcaller
      obtain ⟨⟨c, pool⟩, hpool, rfl⟩ := Option.map_eq_some_iff.mp h
      cases hidle : u.pool.idle with
      | nil => simp [Pool.takeConnection?, hidle] at hpool
      | cons c' idle =>
        obtain ⟨rfl, rfl⟩ : c' = c ∧ { u.pool with idle } = pool := by
          simpa [Pool.takeConnection?, hidle] using hpool
        exact .connected hcaller hidle
    · exact absurd h nofun
  | putBack caller =>
    simp only [step] at h
    split at h
    · rename_i hcaller
      exact Option.some.inj h ▸ .putBack hcaller
    · exact absurd h nofun
  | leave caller =>
    simp only [step] at h
    split at h
    · rename_i hcaller
      exact Option.some.inj h ▸ .left hcaller
    · exact absurd h nofun

/-! ## Conservation -/

/-- Every one of `n` connections is idle or checked out, and only once, and every one of as many
permits is free or taken. -/
structure Conserved (n : Nat) (u : PoolUse) : Prop where
  /-- Callers have numbers of their own. -/
  distinct : (u.callers.map Prod.fst).Nodup
  /-- Every connection is idle or checked out. -/
  connections : (u.pool.idle ++ checkedOut u.callers).Perm (List.range n)
  /-- Every permit is free or taken. -/
  permits : u.pool.permits + permitsOut u.callers = n

namespace Conserved

/-- A pool without callers has all its connections and permits. -/
lemma full (n : Nat) : Conserved n ⟨Pool.full n, []⟩ where
  distinct := List.nodup_nil
  connections := by simp [Pool.full, checkedOut]
  permits := by simp [Pool.full, permitsOut]

/-- Nothing is lost where a caller comes to another phase and the pool changes by as much. -/
lemma move {old : CallerPhase} {pool : Pool} (h : Conserved n u)
    (hcaller : u.callers.lookup caller = some old)
    (hconnections : (pool.idle ++ phase.connection?.toList).Perm
      (u.pool.idle ++ old.connection?.toList))
    (hpermits : pool.permits + (if phase.hasPermit then 1 else 0) =
      u.pool.permits + if old.hasPermit then 1 else 0) :
    Conserved n (u.move caller phase pool) := by
  have hperm := perm_of_lookup h.distinct hcaller
  -- What the others have stays with them.
  have hout := checkedOut_perm hperm
  have htaken := permitsOut_perm hperm
  rw [checkedOut_cons] at hout
  rw [permitsOut_cons] at htaken
  refine ⟨nodup_cons_filter h.distinct phase, ?_, ?_⟩
  · rw [PoolUse.move, checkedOut_cons, ← List.append_assoc]
    refine (hconnections.append_right _).trans ?_
    rw [List.append_assoc]
    exact (hout.symm.append_left _).trans h.connections
  · have htotal := h.permits
    rw [PoolUse.move, permitsOut_cons]
    dsimp only
    omega

/-- Nothing is lost where a caller without a connection leaves with its permit free again. -/
lemma remove {old : CallerPhase} {pool : Pool} (h : Conserved n u)
    (hcaller : u.callers.lookup caller = some old) (hnone : old.connection? = none)
    (hidle : pool.idle = u.pool.idle)
    (hpermits : pool.permits = u.pool.permits + if old.hasPermit then 1 else 0) :
    Conserved n (u.remove caller pool) := by
  have hperm := perm_of_lookup h.distinct hcaller
  have hout := checkedOut_perm hperm
  have htaken := permitsOut_perm hperm
  rw [checkedOut_cons, hnone] at hout
  rw [permitsOut_cons] at htaken
  refine ⟨h.distinct.sublist (List.filter_sublist.map Prod.fst), ?_, ?_⟩
  · rw [PoolUse.remove, hidle]
    exact (hout.symm.append_left _).trans h.connections
  · have htotal := h.permits
    rw [PoolUse.remove]
    dsimp only
    omega

/-- **No step loses a connection or a permit, or makes one up.** -/
theorem step (h : Conserved n u) (hstep : Stepped u e u') : Conserved n u' := by
  cases hstep with
  | @arrived caller hnew =>
    refine ⟨nodup_cons_filter h.distinct _, ?_, ?_⟩
    · rw [PoolUse.move, filter_of_lookup_eq_none hnew]
      simpa [CallerPhase.connection?] using h.connections
    · rw [PoolUse.move, filter_of_lookup_eq_none hnew]
      simpa [CallerPhase.hasPermit] using h.permits
  | permitted hcaller hpermits =>
    refine h.move hcaller (List.Perm.refl _) ?_
    simp [CallerPhase.hasPermit, hpermits]
  | expired hcaller => exact h.remove hcaller rfl rfl rfl
  | connected hcaller hidle =>
    refine h.move hcaller ?_ rfl
    simp [CallerPhase.connection?, hidle, List.perm_append_singleton]
  | putBack hcaller =>
    refine h.move hcaller ?_ rfl
    simp [CallerPhase.connection?, Pool.putConnection, (List.perm_append_singleton _ _).symm]
  | left hcaller => exact h.remove hcaller rfl rfl rfl

/-- **The free permits, and those of callers that have no connection yet, are covered by idle
connections.** -/
theorem covered (h : Conserved n u) :
    u.pool.permits + u.callers.countP (·.2 = .permitted) ≤ u.pool.idle.length := by
  have hconnections := h.connections.length_eq
  have hpermits := h.permits
  have hcallers := length_checkedOut_add_le u.callers
  rw [List.length_append, List.length_range] at hconnections
  omega

/-- A caller with a permit finds a connection. -/
lemma exists_connection (h : Conserved n u) (hcaller : u.callers.lookup caller = some .permitted) :
    ∃ c pool, u.pool.takeConnection? = some (c, pool) := by
  obtain ⟨first, rest, hcallers, -⟩ := List.lookup_eq_some_iff.mp hcaller
  have hsome : 0 < u.callers.countP (·.2 = .permitted) :=
    List.countP_pos_iff.mpr ⟨(caller, .permitted), by simp [hcallers], by simp⟩
  have hcovered := h.covered
  cases hidle : u.pool.idle with
  | nil =>
    rw [hidle, List.length_nil] at hcovered
    omega
  | cons c idle => exact ⟨c, { u.pool with idle }, by rw [Pool.takeConnection?, hidle]⟩

/-- A caller that takes both at once gets a connection, or no permit. -/
lemma lease_eq (h : Conserved n u) (s : PoolSettings) :
    (∃ c pool, u.pool.lease s = .ok (c, pool)) ∨
      u.pool.lease s = .error (.poolExhausted s.acquireTimeout) := by
  have hcovered := h.covered
  unfold Pool.lease
  cases hpermits : u.pool.permits with
  | zero => exact .inr (by simp [Pool.takePermit?, hpermits])
  | succ permits =>
    cases hidle : u.pool.idle with
    | nil =>
      rw [hidle, hpermits, List.length_nil] at hcovered
      omega
    | cons c idle =>
      exact .inl ⟨c, ⟨idle, permits⟩, by
        simp [Pool.takePermit?, Pool.takeConnection?, hpermits, hidle]⟩

end Conserved

/-- Steps one after the other lose nothing. -/
lemma conserved_run : ∀ (events : List Event) {u u' : PoolUse}, Conserved n u →
    u.run events = some u' → Conserved n u'
  | [], _, _, h, hrun => by
    obtain rfl := Option.some.inj hrun
    exact h
  | e :: rest, u, _, h, hrun => by
    rw [run, List.foldlM_cons] at hrun
    obtain ⟨next, hnext, hrest⟩ := Option.bind_eq_some_iff.mp hrun
    exact conserved_run rest (h.step (stepped_of_step hnext)) hrest

/-- A pool that is opened has as many connections as its settings say, and at least one. -/
lemma pool_eq_full {s : PoolSettings} {attempts rest : List (Option String)} {pool : Pool}
    (h : Pool.opened s attempts = (.ok pool, rest)) : pool = Pool.full s.connections := by
  unfold Pool.opened at h
  split at h
  · exact (Except.ok.inj (Prod.mk.inj h).1).symm
  · exact absurd (Prod.mk.inj h).1 nofun

/-- **A pool loses no connection, and whoever has a permit finds one.** After any steps of any
callers, in any order, every connection is idle or checked out, and only once. No more are ever
checked out than the pool has, a caller with a permit finds a connection, and a caller that takes
both at once gets one as well, unless there is no permit.

**Proof sketch.** The invariant is that the idle and the checked-out connections together are all
connections, each once, and that there are no fewer idle ones than free permits and callers with a
permit need (`Conserved`). Every step of a caller keeps it, so that every course of steps does
(`conserved_run`). A permit is thus never without an idle connection (`Conserved.exists_connection`,
`Conserved.lease_eq`). -/
theorem conserves_connections (s : PoolSettings) {attempts rest : List (Option String)}
    {pool : Pool} (hopened : Pool.opened s attempts = (.ok pool, rest)) {events : List Event}
    {u : PoolUse} (hrun : (PoolUse.mk pool []).run events = some u) :
    u.pool.idle.length + (checkedOut u.callers).length = max 1 s.size ∧
      (checkedOut u.callers).length ≤ max 1 s.size ∧
      (u.pool.idle ++ checkedOut u.callers).Nodup ∧
      (∀ caller, u.callers.lookup caller = some .permitted →
        ∃ c pool, u.pool.takeConnection? = some (c, pool)) ∧
      ∀ s', u.pool.lease s' ≠ .error (.connection "pool permit without idle connection") := by
  rw [pool_eq_full hopened] at hrun
  have h : Conserved s.connections u := conserved_run events (.full _) hrun
  have htotal : u.pool.idle.length + (checkedOut u.callers).length = max 1 s.size := by
    rw [← List.length_append, h.connections.length_eq, List.length_range]
    rfl
  refine ⟨htotal, by omega, h.connections.nodup_iff.mpr List.nodup_range,
    fun caller => h.exists_connection, fun s' hlease => ?_⟩
  rcases h.lease_eq s' with ⟨c, pool, hok⟩ | hexhausted
  · exact absurd (hok.symm.trans hlease) nofun
  · exact absurd (hexhausted.symm.trans hlease) nofun

/-- A pool of two with three callers: one has a permit while another gives its connection back,
and the third has waited too long. -/
theorem conserves_connections_three_callers :
    let events : List Event := [.arrive 1, .permit 1, .connect 1, .arrive 2, .arrive 3, .permit 2,
      .putBack 1, .expire 3]
    Pool.opened { size := 2 } [] = (.ok (Pool.full 2), []) ∧
      ∃ u, (PoolUse.mk (Pool.full 2) []).run events = some u ∧
        u.pool.idle.length + (checkedOut u.callers).length = 2 ∧ u.pool.permits = 0 ∧
        u.callers.lookup 2 = some .permitted ∧
        ∃ c pool, u.pool.takeConnection? = some (c, pool) := by
  intro events
  have hopened : Pool.opened { size := 2 } [] = (.ok (Pool.full 2), []) := by decide
  obtain ⟨u, hrun, hpermits, hcaller⟩ : ∃ u, (PoolUse.mk (Pool.full 2) []).run events = some u ∧
      u.pool.permits = 0 ∧ u.callers.lookup 2 = some .permitted := ⟨_, rfl, rfl, rfl⟩
  obtain ⟨htotal, -, -, hfinds, -⟩ := conserves_connections { size := 2 } hopened hrun
  exact ⟨hopened, u, hrun, htotal, hpermits, hcaller, hfinds 2 hcaller⟩

end PoolUse

end QueryGate
