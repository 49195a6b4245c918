import Mathlib.Data.List.Basic
import QueryGate.Breaker.Traffic

set_option relaxedAutoImplicit false
set_option autoImplicit false

/-!
# One event at a breaker

What calls that arrive, end or are given up do to a breaker, and what one event does to a breaker
with its calls.

## Main definitions

* `QueryGate.Breaker.Admits` — a call that arrives now is let through.
* `QueryGate.Traffic.Stepped` — all that an event can do, case by case.

## Main results

* `QueryGate.Breaker.arrive_eq_admitted` — the three ways in which a call is let through.
* `QueryGate.Traffic.stepped` — an event does one of the things that `Stepped` lists.
* `QueryGate.Traffic.now_run` — the clock only goes forward.

## Implementation notes

Failures are counted without an upper end, so that nothing here depends on the width of a counter.
-/

namespace QueryGate

namespace Breaker

variable {s : BreakerSettings} {now : Nat} {b b' : Breaker} {trial failed : Bool}

/-- A call that arrives now is let through. -/
def Admits (s : BreakerSettings) (now : Nat) (b : Breaker) : Prop :=
  ∃ trial b', b.arrive s now = .admitted trial b'

/-- A call that is refused is not let through. -/
lemma not_admits_of_refused {after : Span} (h : b.arrive s now = .refused after) :
    ¬b.Admits s now := by
  rintro ⟨trial, b', hadmitted⟩
  exact absurd (h.symm.trans hadmitted) nofun

/-- A call is let through by a closed breaker, by an open one as a trial, or by a half-open one on
which no trial runs. -/
lemma arrive_eq_admitted (h : b.arrive s now = .admitted trial b') :
    b.gate = .closed ∧ trial = false ∧ b' = b ∨
      b.gate = .opened ∧ trial = true ∧ b' = { b with gate := .halfOpen, onTrial := true } ∨
      b.gate = .halfOpen ∧ b.onTrial = false ∧ trial = true ∧ b' = { b with onTrial := true } := by
  unfold arrive at h
  cases hgate : b.gate with
  | closed =>
    simp only [hgate, Arrival.admitted.injEq] at h
    exact Or.inl ⟨rfl, h.1.symm, h.2.symm⟩
  | opened =>
    refine Or.inr (Or.inl ?_)
    simp only [hgate] at h
    split at h
    · split_ifs at h
      simp only [Arrival.admitted.injEq] at h
      exact ⟨rfl, h.1.symm, h.2.symm⟩
    · simp only [Arrival.admitted.injEq] at h
      exact ⟨rfl, h.1.symm, h.2.symm⟩
  | halfOpen =>
    refine Or.inr (Or.inr ?_)
    simp only [hgate] at h
    split_ifs at h with htrial
    simp only [Arrival.admitted.injEq] at h
    exact ⟨rfl, by simpa using htrial, h.1.symm, h.2.symm⟩

/-- A closed breaker lets calls through. -/
lemma admits_of_closed (h : b.gate = .closed) : b.Admits s now :=
  ⟨false, b, by rw [arrive, h]⟩

/-- No call is let through while a trial runs on a half-open breaker. -/
lemma not_admits_of_onTrial (hgate : b.gate = .halfOpen) (htrial : b.onTrial = true) :
    ¬b.Admits s now := by
  have hrefused : b.arrive s now = .refused 0 := by
    rw [arrive, hgate, htrial]
    rfl
  exact not_admits_of_refused hrefused

/-- No breaker is open just after a call was let through. -/
lemma gate_ne_opened_of_admitted (h : b.arrive s now = .admitted trial b') :
    b'.gate ≠ .opened := by
  rcases arrive_eq_admitted h with ⟨hgate, -, rfl⟩ | ⟨-, -, rfl⟩ | ⟨hgate, -, -, rfl⟩
  · simp [hgate]
  · simp
  · simp [hgate]

/-! ## Calls that end -/

/-- Giving up a call that is not on trial changes nothing. -/
lemma cancel_false : b.cancel s now false = b := rfl

/-- Giving up a trial is its failure. -/
lemma cancel_true : b.cancel s now true = b.settle s now true true := rfl

/-- The end of a trial leaves the rest of the breaker as it was. -/
@[simp] lemma gate_endTrial : (b.endTrial trial).gate = b.gate := by
  cases trial <;> rfl

/-- The end of a trial leaves the rest of the breaker as it was. -/
@[simp] lemma openedAt_endTrial : (b.endTrial trial).openedAt = b.openedAt := by
  cases trial <;> rfl

/-- After the end of a call no breaker is half open. -/
lemma gate_settle_ne_halfOpen : (b.settle s now trial failed).gate ≠ .halfOpen := by
  cases failed with
  | false =>
    simp only [settle, succeed, gate_endTrial, Bool.false_eq_true, if_false]
    split_ifs with h
    · exact nofun
    · exact h
  | true =>
    simp only [settle, fail, gate_endTrial, if_true]
    cases hgate : b.gate with
    | closed => split_ifs <;> simp
    | opened => simp [hgate]
    | halfOpen => exact nofun

/-- After a trial was given up no breaker is half open. -/
lemma gate_cancel_true_ne_halfOpen : (b.cancel s now true).gate ≠ .halfOpen := by
  rw [cancel_true]
  exact gate_settle_ne_halfOpen

/-- The end of a call leaves an open breaker open, since the same time. -/
lemma settle_of_opened (h : b.gate = .opened) :
    (b.settle s now trial failed).gate = .opened ∧
      (b.settle s now trial failed).openedAt = b.openedAt := by
  cases failed with
  | false => simp [settle, succeed, h]
  | true => simp [settle, fail, h]

/-- A breaker that the end of a call opens is open from now on. -/
lemma openedAt_settle (h : b.gate ≠ .opened)
    (hopened : (b.settle s now trial failed).gate = .opened) :
    (b.settle s now trial failed).openedAt = some now := by
  cases failed with
  | false =>
    simp only [settle, succeed, gate_endTrial, Bool.false_eq_true, if_false] at hopened
    split_ifs at hopened
    exact absurd hopened h
  | true =>
    simp only [settle, fail, gate_endTrial, if_true] at hopened ⊢
    cases hgate : b.gate with
    | closed =>
      simp only [hgate] at hopened ⊢
      split_ifs at hopened ⊢
      rfl
    | opened => exact absurd hgate h
    | halfOpen => rfl

/-- A failure opens a half-open breaker. -/
lemma gate_settle_failed (h : b.gate = .halfOpen) :
    (b.settle s now trial true).gate = .opened := by
  simp [settle, fail, h]

/-- A call without a failure closes a half-open breaker. -/
lemma gate_settle_succeeded (h : b.gate = .halfOpen) :
    (b.settle s now trial false).gate = .closed := by
  simp [settle, succeed, h]

end Breaker

namespace Traffic

variable {s : BreakerSettings} {t : Traffic} {e : Event} {id : String}

/-- Whether a call arrives. -/
def Event.arrives : Event → Bool
  | .call _ | .start _ => true
  | _ => false

/-- Whether the running call of a name ends or is given up. -/
def Event.ends (id : String) : Event → Bool
  | .finish i _ | .cancel i => i == id
  | _ => false

/-- All that an event can do, case by case. -/
inductive Stepped (s : BreakerSettings) (t : Traffic) : Event → Traffic → Prop
  /-- The call that arrives is refused. -/
  | refused {e : Event} {after : Span} (harrives : e.arrives = true)
    (h : t.breaker.arrive s t.now = .refused after) : Stepped s t e t
  /-- The call that arrives is let through and ends at once. -/
  | called {how : CallEnd} {trial : Bool} {b : Breaker}
    (h : t.breaker.arrive s t.now = .admitted trial b) :
    Stepped s t (.call how) { t with breaker := b.settle s t.now trial how.isFailure }
  /-- The call that arrives is let through and runs. -/
  | started {id : String} {trial : Bool} {b : Breaker} (hfree : t.running.lookup id = none)
    (h : t.breaker.arrive s t.now = .admitted trial b) :
    Stepped s t (.start id) { t with breaker := b, running := (id, trial) :: t.running }
  /-- The call that arrives is let through and runs in place of one of its name, which is given
  up. -/
  | replaced {id : String} {trial old : Bool} {b : Breaker}
    (hold : t.running.lookup id = some old)
    (h : t.breaker.arrive s t.now = .admitted trial b) :
    Stepped s t (.start id)
      { t with
        breaker := b.cancel s t.now old
        running := (id, trial) :: t.running.filter (·.1 != id) }
  /-- There is no call that could end. -/
  | unknown {e : Event} {id : String} (hends : e.ends id = true)
    (h : t.running.lookup id = none) : Stepped s t e t
  /-- A running call ends. -/
  | ended {id : String} {how : CallEnd} {trial : Bool} (h : t.running.lookup id = some trial) :
    Stepped s t (.finish id how)
      { t with
        breaker := t.breaker.settle s t.now trial how.isFailure
        running := t.running.filter (·.1 != id) }
  /-- A running call is given up. -/
  | cancelled {id : String} {trial : Bool} (h : t.running.lookup id = some trial) :
    Stepped s t (.cancel id)
      { t with
        breaker := t.breaker.cancel s t.now trial
        running := t.running.filter (·.1 != id) }
  /-- Time passes. -/
  | passed {time : Span} : Stepped s t (.pass time) { t with now := t.now + time }

/-- **An event does one of the things listed.** -/
theorem stepped (s : BreakerSettings) (t : Traffic) (e : Event) : Stepped s t e (t.step s e).2 := by
  cases e with
  | call how =>
    cases h : t.breaker.arrive s t.now with
    | refused after =>
      simp only [step, h]
      exact .refused rfl h
    | admitted trial b =>
      simp only [step, h]
      exact .called h
  | start id =>
    cases h : t.breaker.arrive s t.now with
    | refused after =>
      simp only [step, h]
      exact .refused rfl h
    | admitted trial b =>
      cases hold : t.running.lookup id with
      | none =>
        simp only [step, giveUp, h, hold]
        exact .started hold h
      | some old =>
        simp only [step, giveUp, h, hold]
        exact .replaced hold h
  | finish id how =>
    cases h : t.running.lookup id with
    | none =>
      simp only [step, h]
      exact .unknown (by simp [Event.ends]) h
    | some trial =>
      simp only [step, h]
      exact .ended h
  | cancel id =>
    cases h : t.running.lookup id with
    | none =>
      simp only [step, h]
      exact .unknown (by simp [Event.ends]) h
    | some trial =>
      simp only [step, giveUp, h]
      exact .cancelled h
  | pass time => exact .passed

/-- A call that is refused changes nothing. -/
lemma step_of_refused {after : Span} (harrives : e.arrives = true)
    (h : t.breaker.arrive s t.now = .refused after) : t.step s e = (.refused after, t) := by
  cases e with
  | call how => rw [step, h]
  | start id => rw [step, h]
  | finish id how => exact absurd harrives nofun
  | cancel id => exact absurd harrives nofun
  | pass time => exact absurd harrives nofun

/-! ## Runs -/

/-- No events. -/
@[simp] lemma run_nil : run s t [] = t := rfl

/-- One event and then others. -/
@[simp] lemma run_cons (events : List Event) :
    run s t (e :: events) = run s (t.step s e).2 events := rfl

/-- Some events and then others. -/
lemma run_append (first rest : List Event) :
    run s t (first ++ rest) = run s (run s t first) rest := List.foldl_append

/-- Some events and then one more. -/
lemma run_concat (events : List Event) :
    run s t (events ++ [e]) = ((run s t events).step s e).2 := by
  rw [run_append, run_cons, run_nil]

/-- The time that passes in an event. -/
def Event.duration : Event → Span
  | .pass time => time
  | _ => 0

/-- The clock goes forward by the time that passes. -/
lemma Stepped.now_eq {u : Traffic} (h : Stepped s t e u) : u.now = t.now + e.duration := by
  cases h with
  | refused harrives =>
    cases e with
    | pass => exact absurd harrives nofun
    | _ => rfl
  | unknown hends =>
    cases e with
    | pass => exact absurd hends nofun
    | _ => rfl
  | _ => rfl

/-- The time that passes in the course of events. -/
def elapsed : List Event → Span
  | [] => 0
  | e :: rest => e.duration + elapsed rest

/-- The clock goes forward by the time that passes. -/
lemma now_run : ∀ (events : List Event) (t : Traffic),
    (run s t events).now = t.now + elapsed events
  | [], _ => rfl
  | e :: rest, t => by
    rw [run_cons, now_run rest, (stepped s t e).now_eq, elapsed, Nat.add_assoc]

end Traffic

end QueryGate
