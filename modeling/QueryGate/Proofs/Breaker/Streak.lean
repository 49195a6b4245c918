import Mathlib.Data.List.Induction
import QueryGate.Proofs.Breaker.SingleTrial

set_option relaxedAutoImplicit false
set_option autoImplicit false

/-!
# Failures in a row

Calls that were let through at different times end in any order, and some of them while the breaker
is open or half open. Its counter may then say anything, but it starts from nothing whenever the
breaker closes, and from then on counts the failures since the last call that ended without one.

## Main definitions

* `QueryGate.Traffic.verdict` — what an event tells the breaker about a call.
* `QueryGate.Traffic.Moment` — an event with the traffic that it meets.
* `QueryGate.Traffic.streak` — the failures since the breaker last closed or a call last ended
  without one.

## Main results

* `QueryGate.Traffic.Stepped.verdict` — an event lets a call through, or not, and then the breaker
  settles what it is told.
* `QueryGate.Traffic.failures_of_closed` — a closed breaker has counted the failures in a row.
* `QueryGate.Traffic.counts_failures_in_a_row` — and it opens at the one that makes them too many.
-/

namespace QueryGate

namespace Breaker

variable {s : BreakerSettings} {now : Nat} {b : Breaker} {trial : Bool}

/-! ## The counter of a breaker -/

/-- After a call without a failure none are counted. -/
lemma failures_settle_succeeded : (b.settle s now trial false).failures = 0 := rfl

/-- A call without a failure leaves a closed breaker closed. -/
lemma gate_settle_of_closed (h : b.gate = .closed) :
    (b.settle s now trial false).gate = .closed := by
  simp [settle, succeed, h]

/-- A closed breaker counts a failure, and opens if there are too many. -/
lemma settle_failed_of_closed (h : b.gate = .closed) :
    (b.settle s now trial true).failures = b.failures + 1 ∧
      (b.settle s now trial true).gate =
        if s.maxFailures ≤ b.failures + 1 then .opened else .closed := by
  have hfailures : (b.endTrial trial).failures = b.failures := by cases trial <;> rfl
  simp only [settle, fail, if_true, gate_endTrial, h, hfailures]
  split_ifs <;> simp

/-- A failure closes no breaker. -/
lemma gate_settle_failed_ne_closed (h : b.gate ≠ .closed) :
    (b.settle s now trial true).gate ≠ .closed := by
  simp only [settle, fail, if_true, gate_endTrial]
  cases hgate : b.gate with
  | closed => exact absurd hgate h
  | opened => simp [hgate]
  | halfOpen => simp

/-- A call that is let through leaves a closed breaker as it is, and closes none. -/
lemma closed_of_admitted {b' : Breaker} (h : b.arrive s now = .admitted trial b') :
    (b.gate = .closed → b' = b) ∧ (b'.gate = .closed → b.gate = .closed) := by
  rcases arrive_eq_admitted h with ⟨hgate, -, rfl⟩ | ⟨hgate, -, rfl⟩ | ⟨hgate, -, -, rfl⟩ <;>
    simp [hgate]

end Breaker

namespace Traffic

open Breaker

variable {s : BreakerSettings} {t u : Traffic} {e : Event} {events : List Event}

/-! ## What an event tells the breaker -/

/-- What an event tells the breaker about a call: that it failed, or that it ended otherwise. A call
that is given up has failed if it was on trial, and else nothing is told of it. It is also given up
when another call is let through under its name. -/
def verdict (s : BreakerSettings) (t : Traffic) : Event → Option Bool
  | .call how =>
    match t.breaker.arrive s t.now with
    | .admitted _ _ => some how.isFailure
    | .refused _ => none
  | .start id =>
    match t.breaker.arrive s t.now with
    | .admitted _ _ => t.report (.cancel id)
    | .refused _ => none
  | e => t.report e

/-- A call that is given up settles what is told of it. -/
lemma cancel_eq_of_report {id : String} {old : Bool} (h : t.running.lookup id = some old)
    (b : Breaker) :
    match t.report (.cancel id) with
    | none => b.cancel s t.now old = b
    | some failed => b.cancel s t.now old = b.settle s t.now old failed := by
  cases old with
  | false => simp [report, h, cancel_false]
  | true => simp [report, h, cancel_true]

/-- An event lets a call through, or leaves the breaker as it is; after that the breaker settles
what it is told. -/
theorem Stepped.verdict (h : Stepped s t e u) : ∃ b,
    (b = t.breaker ∨ ∃ trial, t.breaker.arrive s t.now = .admitted trial b) ∧
      match t.verdict s e with
      | none => u.breaker = b
      | some failed => ∃ trial, u.breaker = b.settle s t.now trial failed := by
  cases h with
  | refused harrives h =>
    refine ⟨t.breaker, .inl rfl, ?_⟩
    cases e with
    | call | start => simp [Traffic.verdict, h]
    | finish | cancel | pass => exact absurd harrives Bool.false_ne_true
  | @called how trial b h =>
    refine ⟨b, .inr ⟨trial, h⟩, ?_⟩
    simp only [Traffic.verdict, h]
    exact ⟨trial, rfl⟩
  | @started id trial b hfree h =>
    refine ⟨b, .inr ⟨trial, h⟩, ?_⟩
    simp [Traffic.verdict, Traffic.report, h, hfree]
  -- The call that is replaced is given up after the new one is let through.
  | @replaced id trial old b hold h =>
    refine ⟨b, .inr ⟨trial, h⟩, ?_⟩
    have hcancel := cancel_eq_of_report (s := s) hold b
    simp only [Traffic.verdict, h]
    split <;> rename_i hcase <;> rw [hcase] at hcancel
    · exact hcancel
    · exact ⟨old, hcancel⟩
  | @unknown _ i hends hnone =>
    refine ⟨t.breaker, .inl rfl, ?_⟩
    cases e with
    | call | start | pass => exact absurd hends Bool.false_ne_true
    | finish j how =>
      obtain rfl : j = i := eq_of_beq hends
      simp [Traffic.verdict, Traffic.report, hnone]
    | cancel j =>
      obtain rfl : j = i := eq_of_beq hends
      simp [Traffic.verdict, Traffic.report, hnone]
  | @ended id how trial h =>
    refine ⟨t.breaker, .inl rfl, ?_⟩
    simp only [Traffic.verdict, Traffic.report, h, Option.map_some]
    exact ⟨trial, rfl⟩
  | @cancelled id trial h =>
    refine ⟨t.breaker, .inl rfl, ?_⟩
    have hcancel := cancel_eq_of_report (s := s) h t.breaker
    simp only [Traffic.verdict]
    split <;> rename_i hcase <;> rw [hcase] at hcancel
    · exact hcancel
    · exact ⟨trial, hcancel⟩
  | passed => exact ⟨t.breaker, .inl rfl, rfl⟩

/-- A closed breaker settles what it is told as it is. -/
lemma Stepped.verdict_of_closed (h : Stepped s t e u) (hclosed : t.breaker.gate = .closed) :
    match t.verdict s e with
    | none => u.breaker = t.breaker
    | some failed => ∃ trial, u.breaker = t.breaker.settle s t.now trial failed := by
  obtain ⟨b, hb, hverdict⟩ := h.verdict
  obtain rfl : b = t.breaker := by
    rcases hb with rfl | ⟨trial, hadmitted⟩
    · rfl
    · exact (closed_of_admitted hadmitted).1 hclosed
  exact hverdict

/-- Only a call that ends without a failure closes a breaker. -/
lemma Stepped.verdict_of_closes (h : Stepped s t e u) (hbefore : t.breaker.gate ≠ .closed)
    (hclosed : u.breaker.gate = .closed) : t.verdict s e = some false := by
  obtain ⟨b, hb, hverdict⟩ := h.verdict
  have hgate : b.gate ≠ .closed := by
    rcases hb with rfl | ⟨trial, hadmitted⟩
    · exact hbefore
    · exact fun hgate => hbefore ((closed_of_admitted hadmitted).2 hgate)
  cases hcase : t.verdict s e with
  | none =>
    simp only [hcase] at hverdict
    exact absurd (hverdict ▸ hclosed) hgate
  | some failed =>
    simp only [hcase] at hverdict
    obtain ⟨trial, hu⟩ := hverdict
    cases failed with
    | false => rfl
    | true => exact absurd (hu ▸ hclosed) (gate_settle_failed_ne_closed hgate)

/-- After a call that ends without a failure none are counted. -/
lemma Stepped.failures_of_succeeds (h : Stepped s t e u) (hverdict : t.verdict s e = some false) :
    u.breaker.failures = 0 := by
  obtain ⟨b, -, hsettled⟩ := h.verdict
  simp only [hverdict] at hsettled
  obtain ⟨trial, hu⟩ := hsettled
  rw [hu, failures_settle_succeeded]

/-! ## Failures in a row -/

/-- An event with the traffic that it meets. -/
structure Moment where
  /-- The traffic before the event. -/
  before : Traffic
  /-- The event. -/
  event : Event

namespace Moment

/-- Whether a call fails: it ends with a failure, or it is on trial and given up. -/
def fails (s : BreakerSettings) (m : Moment) : Bool := m.before.verdict s m.event == some true

/-- Whether a call ends without a failure. -/
def succeeds (s : BreakerSettings) (m : Moment) : Bool := m.before.verdict s m.event == some false

/-- Whether the breaker closes. -/
def closes (s : BreakerSettings) (m : Moment) : Bool :=
  m.before.breaker.gate != .closed && (m.before.step s m.event).2.breaker.gate == .closed

end Moment

/-- The moments of a course of events, in order. -/
def moments (s : BreakerSettings) : Traffic → List Event → List Moment
  | _, [] => []
  | t, e :: rest => ⟨t, e⟩ :: moments s (t.step s e).2 rest

/-- The failures since the breaker last closed or a call last ended without one, whichever is later,
or since the start if neither ever happened. -/
def streak (s : BreakerSettings) (events : List Event) : Nat :=
  ((moments s {} events).reverse.takeWhile fun m => !(m.closes s || m.succeeds s)).countP
    (Moment.fails s)

/-- One event more is one moment more. -/
lemma moments_concat : ∀ (events : List Event) (t : Traffic),
    moments s t (events ++ [e]) = moments s t events ++ [⟨run s t events, e⟩]
  | [], _ => rfl
  | e' :: rest, t => by
    rw [List.cons_append, moments, moments_concat rest, moments, List.cons_append, run_cons]

/-- One event more begins a new row, or goes on with the one before. -/
lemma streak_concat :
    streak s (events ++ [e]) =
      if (⟨run s {} events, e⟩ : Moment).closes s || (⟨run s {} events, e⟩ : Moment).succeeds s
      then 0
      else streak s events + if (⟨run s {} events, e⟩ : Moment).fails s then 1 else 0 := by
  unfold streak
  rw [moments_concat, List.reverse_concat, List.takeWhile_cons]
  split_ifs <;> simp_all

/-- A call goes on with the row of failures as long as the breaker is closed and the call does not
end without a failure. -/
lemma streak_concat_of_closed (hclosed : (run s {} events).breaker.gate = .closed)
    (hverdict : (run s {} events).verdict s e ≠ some false) :
    streak s (events ++ [e]) =
      streak s events + if (run s {} events).verdict s e = some true then 1 else 0 := by
  rw [streak_concat]
  simp [Moment.closes, Moment.succeeds, Moment.fails, hclosed, hverdict]

/-- **A closed breaker has counted the failures in a row, and there is room for one more.**

**Proof sketch.** Induction on the events, the last one first. If it closes the breaker or ends a
call without a failure, the row is empty and so is the counter. Otherwise the breaker was closed
before, and both count the same. -/
theorem failures_of_closed (hmax : 1 ≤ s.maxFailures) (events : List Event)
    (hclosed : (run s {} events).breaker.gate = .closed) :
    (run s {} events).breaker.failures = streak s events ∧ streak s events < s.maxFailures := by
  induction events using List.reverseRecOn with
  | nil => exact ⟨rfl, hmax⟩
  | append_singleton events e ih =>
    have hstep := stepped s (run s {} events) e
    rw [← run_concat] at hstep
    by_cases hsucceeds : (run s {} events).verdict s e = some false
    · have hzero : streak s (events ++ [e]) = 0 := by
        rw [streak_concat, if_pos (by simp [Moment.succeeds, hsucceeds])]
      rw [hzero, hstep.failures_of_succeeds hsucceeds]
      exact ⟨rfl, hmax⟩
    · -- Nothing but a success closes a breaker, so this one was closed before.
      have hbefore : (run s {} events).breaker.gate = .closed := by
        by_contra hbefore
        exact hsucceeds (hstep.verdict_of_closes hbefore hclosed)
      obtain ⟨hcount, hroom⟩ := ih hbefore
      have hverdict := hstep.verdict_of_closed hbefore
      rw [streak_concat_of_closed hbefore hsucceeds]
      cases hcase : (run s {} events).verdict s e with
      | none =>
        simp only [hcase] at hverdict
        simpa [hverdict] using ⟨hcount, hroom⟩
      | some failed =>
        simp only [hcase] at hverdict
        obtain ⟨trial, hu⟩ := hverdict
        cases failed with
        | false => exact absurd hcase hsucceeds
        | true =>
          rw [hu, (settle_failed_of_closed hbefore).2, hcount] at hclosed
          rw [hu, (settle_failed_of_closed hbefore).1, hcount, if_pos rfl]
          refine ⟨rfl, Nat.lt_of_not_le fun hfull => ?_⟩
          rw [if_pos hfull] at hclosed
          exact absurd hclosed nofun

/-- A closed breaker opens at the failure that makes the row as long as is allowed. -/
lemma opens_iff_of_closed (hmax : 1 ≤ s.maxFailures)
    (hclosed : (run s {} events).breaker.gate = .closed) :
    (run s {} (events ++ [e])).breaker.gate = .opened ↔
      (run s {} events).verdict s e = some true ∧ streak s (events ++ [e]) = s.maxFailures := by
  obtain ⟨hcount, hroom⟩ := failures_of_closed hmax events hclosed
  have hstep := stepped s (run s {} events) e
  rw [← run_concat] at hstep
  have hverdict := hstep.verdict_of_closed hclosed
  cases hcase : (run s {} events).verdict s e with
  | none =>
    simp only [hcase] at hverdict
    simp [hverdict, hclosed]
  | some failed =>
    simp only [hcase] at hverdict
    obtain ⟨trial, hu⟩ := hverdict
    cases failed with
    | false => simp [hu, gate_settle_of_closed hclosed]
    | true =>
      have hstreak := streak_concat_of_closed (s := s) (e := e) hclosed (by simp [hcase])
      rw [hcase, if_pos rfl] at hstreak
      rw [hu, (settle_failed_of_closed hclosed).2, hcount, hstreak]
      split_ifs with hfull
      · simp only [true_and, true_iff]
        omega
      · simp only [true_and, false_iff]
        omega

/-- **A closed breaker counts failures in a row.** After any events that leave the breaker closed,
its counter is the number of failures since it last closed or a call last ended without one, and is
below the limit. The next event opens it exactly when it is a failure that brings this number to the
limit. A call that is given up and was not on trial changes nothing about any breaker.

**Proof sketch.** By induction on the events, the last one first, the counter of a closed breaker is
the row of failures and is below the limit (`failures_of_closed`). So the next event makes the row
reach the limit just if it is a failure and the row is one short of it, which is when the breaker
opens (`opens_iff_of_closed`). A call that is given up has no verdict, and touches the breaker only
if it was on trial. -/
theorem counts_failures_in_a_row (s : BreakerSettings) (hmax : 1 ≤ s.maxFailures) :
    (∀ events : List Event, (run s {} events).breaker.gate = .closed →
      (run s {} events).breaker.failures = streak s events ∧
        (run s {} events).breaker.failures < s.maxFailures ∧
        ∀ e, (run s {} (events ++ [e])).breaker.gate = .opened ↔
          (⟨run s {} events, e⟩ : Moment).fails s = true ∧
            streak s (events ++ [e]) = s.maxFailures) ∧
      ∀ (t : Traffic) (id : String), t.running.lookup id = some false →
        (t.step s (.cancel id)).2.breaker = t.breaker := by
  refine ⟨fun events hclosed => ?_, fun t id hid => ?_⟩
  · obtain ⟨hcount, hroom⟩ := failures_of_closed hmax events hclosed
    refine ⟨hcount, hcount ▸ hroom, fun e => ?_⟩
    rw [opens_iff_of_closed hmax hclosed, Moment.fails, beq_iff_eq]
  · simp [step, giveUp, hid, cancel_false]

/-- A late answer begins a new row, a trial given up late goes on with it, and the second failure
after that opens the breaker. -/
theorem counts_failures_late_answer :
    let s : BreakerSettings := { maxFailures := 2, timeout := 10 }
    let events : List Event := [.start "late", .call .failed, .call .failed, .pass 10,
      .start "trial", .finish "late" .defective, .cancel "trial"]
    1 ≤ s.maxFailures ∧ (run s {} events).breaker.gate = .closed ∧
      (run s {} events).breaker.failures = 1 ∧ streak s events = 1 ∧
      (run s {} (events ++ [.call .failed])).breaker.gate = .opened := by
  intro s events
  have hmax : 1 ≤ s.maxFailures := by decide
  have hclosed : (run s {} events).breaker.gate = .closed := by decide
  obtain ⟨hcount, -, hopens⟩ := (counts_failures_in_a_row s hmax).1 events hclosed
  have hstreak : streak s events = 1 := hcount.symm.trans (by decide)
  exact ⟨hmax, hclosed, hcount.trans hstreak, hstreak, (hopens _).mpr ⟨by decide, by decide⟩⟩

end Traffic

end QueryGate
