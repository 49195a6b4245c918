import QueryGate.Proofs.Breaker.Step

set_option relaxedAutoImplicit false
set_option autoImplicit false

/-!
# The cooldown of a breaker

A breaker that opens stays open for a set time, whatever the calls do that it let through before.

## Main definitions

* `QueryGate.Traffic.Opens` — an event opens the breaker.
* `QueryGate.Breaker.Cooling` — a breaker is open since a time.

## Main results

* `QueryGate.Traffic.Stepped.cooling` — a breaker stays open as long as no call is let through.
* `QueryGate.Traffic.refused_exactly_during_cooldown` — calls are refused for the set time, and no
  longer.
-/

namespace QueryGate

namespace Breaker

variable {s : BreakerSettings} {now opening : Nat} {b : Breaker} {trial failed : Bool}

/-- A breaker is open since a time. -/
def Cooling (opening : Nat) (b : Breaker) : Prop :=
  b.gate = .opened ∧ b.openedAt = some opening

/-- The end of a call leaves an open breaker open, since the same time. -/
lemma Cooling.settle (h : b.Cooling opening) : (b.settle s now trial failed).Cooling opening := by
  have hsettle : (b.settle s now trial failed).gate = .opened ∧ _ := settle_of_opened h.1
  exact ⟨hsettle.1, hsettle.2.trans h.2⟩

/-- A call given up leaves an open breaker open, since the same time. -/
lemma Cooling.cancel (h : b.Cooling opening) : (b.cancel s now trial).Cooling opening := by
  cases trial with
  | false => exact h
  | true =>
    rw [cancel_true]
    exact h.settle

/-- An open breaker refuses calls until its time is over, and says how long that is. -/
lemma Cooling.arrive (h : b.Cooling opening) (hopening : opening ≤ now)
    (hnow : now < opening + s.timeout) :
    b.arrive s now = .refused (opening + s.timeout - now) := by
  have hwait : now - opening < s.timeout := by
    rw [Nat.sub_lt_iff_lt_add hopening, Nat.add_comm]
    exact hnow
  have hrest : s.timeout - (now - opening) = opening + s.timeout - now := by
    rw [Nat.sub_sub_right _ hopening, Nat.add_comm]
  simp only [Breaker.arrive, h.1, h.2, if_pos hwait, hrest]

/-- An open breaker whose time is over lets a call through on trial. -/
lemma Cooling.arrive_over (h : b.Cooling opening) (hnow : opening + s.timeout ≤ now) :
    b.arrive s now = .admitted true { b with gate := .halfOpen, onTrial := true } := by
  have hwait : ¬now - opening < s.timeout := Nat.not_lt.mpr (Nat.le_sub_of_add_le' hnow)
  simp only [Breaker.arrive, h.1, h.2, if_neg hwait]

/-- An open breaker lets calls through exactly when its time is over. -/
lemma Cooling.admits_iff (h : b.Cooling opening) (hopening : opening ≤ now) :
    b.Admits s now ↔ opening + s.timeout ≤ now := by
  constructor
  · intro hadmits
    by_contra hearly
    exact not_admits_of_refused (h.arrive hopening (Nat.not_le.mp hearly)) hadmits
  · exact fun hover => ⟨true, _, h.arrive_over hover⟩

/-- A breaker that the end of a call opens is open from now on. -/
lemma cooling_settle (h : b.gate ≠ .opened)
    (hopened : (b.settle s now trial failed).gate = .opened) :
    (b.settle s now trial failed).Cooling now :=
  ⟨hopened, openedAt_settle h hopened⟩

/-- A breaker that a call given up opens is open from now on. -/
lemma cooling_cancel (h : b.gate ≠ .opened) (hopened : (b.cancel s now trial).gate = .opened) :
    (b.cancel s now trial).Cooling now := by
  cases trial with
  | false => exact absurd hopened h
  | true =>
    rw [cancel_true] at hopened ⊢
    exact cooling_settle h hopened

end Breaker

namespace Traffic

open Breaker

variable {s : BreakerSettings} {t u : Traffic} {e : Event} {opening : Nat}

/-- An event opens the breaker: the breaker is open after it, and if it was open before, then a
call was let through in between. -/
def Opens (s : BreakerSettings) (t : Traffic) (e : Event) : Prop :=
  (t.step s e).2.breaker.gate = .opened ∧
    (t.breaker.gate = .opened → e.arrives = true ∧ t.breaker.Admits s t.now)

/-- An event that opens the breaker starts the cooldown. -/
lemma Stepped.cooling_of_opens (h : Stepped s t e u) (hopened : u.breaker.gate = .opened)
    (hnew : t.breaker.gate = .opened → e.arrives = true ∧ t.breaker.Admits s t.now) :
    u.breaker.Cooling t.now := by
  cases h with
  | refused _ h => exact absurd (hnew hopened).2 (not_admits_of_refused h)
  | called h => exact cooling_settle (gate_ne_opened_of_admitted h) hopened
  | started _ h => exact absurd hopened (gate_ne_opened_of_admitted h)
  | replaced _ h => exact cooling_cancel (gate_ne_opened_of_admitted h) hopened
  | unknown hends =>
    have harrives := (hnew hopened).1
    cases e with
    | call | start => exact absurd hends Bool.false_ne_true
    | finish | cancel | pass => exact absurd harrives Bool.false_ne_true
  | ended => exact cooling_settle (fun hgate => Bool.false_ne_true (hnew hgate).1) hopened
  | cancelled => exact cooling_cancel (fun hgate => Bool.false_ne_true (hnew hgate).1) hopened
  | passed => exact absurd (hnew hopened).1 Bool.false_ne_true

/-- An event that opens the breaker starts the cooldown. -/
lemma Opens.cooling (h : Opens s t e) : (t.step s e).2.breaker.Cooling t.now :=
  (stepped s t e).cooling_of_opens h.1 h.2

/-- A breaker stays open as long as no call is let through. -/
theorem Stepped.cooling (h : Stepped s t e u) (hcooling : t.breaker.Cooling opening)
    (hrefused : e.arrives = true → ¬t.breaker.Admits s t.now) : u.breaker.Cooling opening := by
  cases h with
  | refused | unknown | passed => exact hcooling
  | called h => exact absurd ⟨_, _, h⟩ (hrefused rfl)
  | started _ h => exact absurd ⟨_, _, h⟩ (hrefused rfl)
  | replaced _ h => exact absurd ⟨_, _, h⟩ (hrefused rfl)
  | ended => exact hcooling.settle
  | cancelled => exact hcooling.cancel

/-- A breaker stays open as long as every call that arrives comes before its time is over. -/
lemma cooling_run : ∀ (events : List Event) {t : Traffic}, t.breaker.Cooling opening →
    opening ≤ t.now →
    (∀ p e q, events = p ++ e :: q → e.arrives = true →
      (run s t p).now < opening + s.timeout) →
    (run s t events).breaker.Cooling opening
  | [], _, hcooling, _, _ => hcooling
  | e :: rest, t, hcooling, hopening, hearly => by
    have hstep := stepped s t e
    have hnow : opening ≤ (t.step s e).2.now := by
      rw [hstep.now_eq]
      exact Nat.le_add_right_of_le hopening
    have hrefused : e.arrives = true → ¬t.breaker.Admits s t.now := fun harrives =>
      not_admits_of_refused (hcooling.arrive hopening (hearly [] e rest rfl harrives))
    exact cooling_run rest (hstep.cooling hcooling hrefused) hnow fun p e' q hrest =>
      hearly (e :: p) e' q (by rw [hrest]; rfl)

/-- **Calls are refused from the opening of a breaker until its timeout is over, and no longer.**
Whatever ends, is given up or arrives in the meantime, a call that arrives before then is refused
without being made, and is told exactly how long is left. The first call after that is let
through.

**Proof sketch.** An open breaker takes no notice of calls that end or are given up, and one that
arrives too early is refused without a change. So the breaker stays open, with the time of its
opening kept, as long as every arrival comes too early (`cooling_run`, by induction on the events
from what one step does). Such a breaker refuses with exactly the time left, and lets the first call
through after that (`Cooling.arrive_over`). -/
theorem refused_exactly_during_cooldown (s : BreakerSettings) (before : List Event) (e : Event)
    (after : List Event) (hopens : Opens s (run s {} before) e) :
    let opening := (run s {} before).now
    let t := run s {} (before ++ e :: after)
    (t.now < opening + s.timeout →
      opening ≤ t.now ∧ 0 < opening + s.timeout - t.now ∧
        opening + s.timeout - t.now ≤ s.timeout ∧
        ∀ call : Event, call.arrives = true →
          t.step s call = (.refused (opening + s.timeout - t.now), t)) ∧
    (opening + s.timeout ≤ t.now →
      (∀ p call q, after = p ++ call :: q → call.arrives = true →
        (run s {} (before ++ e :: p)).now < opening + s.timeout) →
      ∃ b, t.breaker.arrive s t.now = .admitted true b) := by
  intro opening t
  set u := ((run s {} before).step s e).2 with hu
  have hafter : ∀ p, run s {} (before ++ e :: p) = run s u p := fun p => by
    rw [run_append, run_cons]
  have hopening : opening ≤ u.now := by
    rw [hu, (stepped s _ e).now_eq]
    exact Nat.le_add_right _ _
  have hcooling : (∀ p call q, after = p ++ call :: q → call.arrives = true →
      (run s u p).now < opening + s.timeout) → t.breaker.Cooling opening := by
    intro hearly
    rw [show t = _ from hafter after]
    exact cooling_run after hopens.cooling hopening hearly
  have hclock : ∀ p q, after = p ++ q → (run s u p).now ≤ t.now := by
    intro p q hsplit
    rw [show t = _ from hafter after, hsplit, run_append, now_run q]
    exact Nat.le_add_right _ _
  refine ⟨fun hnow => ?_, fun hover hearly => ?_⟩
  · have hle : opening ≤ t.now := Nat.le_trans hopening (hclock [] after rfl)
    have hrefused := (hcooling fun p call q hsplit _ =>
      Nat.lt_of_le_of_lt (hclock p (call :: q) hsplit) hnow).arrive hle hnow
    exact ⟨hle, by omega, by omega, fun call harrives => step_of_refused harrives hrefused⟩
  · have hstill := hcooling fun p call q hsplit harrives =>
      hafter p ▸ hearly p call q hsplit harrives
    exact ⟨_, hstill.arrive_over hover⟩

/-- An answer that comes late leaves the rest of the cooldown as it is. -/
theorem refused_during_cooldown_late_answer :
    let s : BreakerSettings := { maxFailures := 1, timeout := 10 }
    let before : List Event := [.start "first", .start "late"]
    let after : List Event := [.pass 3, .finish "late" .answered]
    let t := run s {} (before ++ .finish "first" .failed :: after)
    Opens s (run s {} before) (.finish "first" .failed) ∧
      ∀ call : Event, call.arrives = true → t.step s call = (.refused 7, t) := by
  intro s before after t
  have hopens : Opens s (run s {} before) (.finish "first" .failed) :=
    ⟨rfl, fun hgate => absurd hgate nofun⟩
  exact ⟨hopens,
    ((refused_exactly_during_cooldown s before _ after hopens).1 (by decide)).2.2.2⟩

end Traffic

end QueryGate
