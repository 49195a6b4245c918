import QueryGate.Proofs.Breaker.Trial

set_option relaxedAutoImplicit false
set_option autoImplicit false

/-!
# One trial at a time

While a trial runs every other call is meant to be refused. Calls let through before the breaker
opened may still run at that time, and what they report when they end is taken for the outcome of
the trial: an answer closes the breaker, and a failure opens it anew, so that after another timeout
there is a second trial beside the first.

## Main definitions

* `QueryGate.Traffic.SingleTrial` — while a trial runs, calls are refused and there is no other.
* `QueryGate.Traffic.Undisturbed` — no call that ends takes the place of the trial.

## Main results

* `QueryGate.Traffic.refused_iff_undisturbed` — as long as a half-open breaker waits for its trial,
  calls are refused exactly when nothing disturbs it.
* `QueryGate.Traffic.singleTrial_iff_undisturbed` — there is a single trial exactly when nothing
  disturbs one.
-/

namespace QueryGate.Traffic

open Breaker

variable {s : BreakerSettings} {t u : Traffic} {e : Event} {events : List Event} {id : String}

/-! ## What calls report when they end -/

/-- What an event reports about a call that runs: whether it failed. A call that is given up
reports nothing, unless it was a trial. -/
def report (t : Traffic) : Event → Option Bool
  | .finish id how => (t.running.lookup id).map fun _ => how.isFailure
  | .cancel id =>
    match t.running.lookup id with
    | some true => some true
    | _ => none
  | _ => none

/-- The first report in some events, if there is one, is of a failure, and less time than the
timeout passes after it. -/
def Undisturbed (s : BreakerSettings) : Traffic → List Event → Prop
  | _, [] => True
  | t, e :: rest =>
    match t.report e with
    | none => Undisturbed s (t.step s e).2 rest
    | some failed => failed = true ∧ elapsed rest < s.timeout

/-- A half-open breaker that refuses calls stays as it is until there is a report, and takes the
report for that of the trial. -/
lemma Stepped.report (h : Stepped s t e u) (hgate : t.breaker.gate = .halfOpen)
    (htrial : t.breaker.onTrial = true) :
    match t.report e with
    | none => u.breaker = t.breaker
    | some true => u.breaker.Cooling t.now ∧ u.now = t.now
    | some false => u.breaker.gate = .closed := by
  have hrefuses : ¬t.breaker.Admits s t.now := not_admits_of_onTrial hgate htrial
  have hnew : t.breaker.gate ≠ .opened := hgate ▸ nofun
  cases h with
  | refused harrives =>
    cases e with
    | call | start => rfl
    | finish | cancel | pass => exact absurd harrives Bool.false_ne_true
  | called h | started _ h | replaced _ h => exact absurd ⟨_, _, h⟩ hrefuses
  | @unknown _ i hends hnone =>
    cases e with
    | call | start | pass => exact absurd hends Bool.false_ne_true
    | finish j how =>
      obtain rfl : j = i := eq_of_beq hends
      simp [Traffic.report, hnone]
    | cancel j =>
      obtain rfl : j = i := eq_of_beq hends
      simp [Traffic.report, hnone]
  | @ended i how trial h =>
    simp only [Traffic.report, h, Option.map_some]
    cases hhow : how.isFailure with
    | true => exact ⟨cooling_settle hnew (gate_settle_failed hgate), trivial⟩
    | false => exact gate_settle_succeeded hgate
  | @cancelled i trial h =>
    simp only [Traffic.report, h]
    cases trial with
    | true =>
      rw [cancel_true]
      exact ⟨cooling_settle hnew (gate_settle_failed hgate), trivial⟩
    | false => rfl
  | passed => rfl

/-- Every call is refused, at any point of some events. -/
def Refusing (s : BreakerSettings) (t : Traffic) (events : List Event) : Prop :=
  ∀ p, p <+: events → ¬(run s t p).breaker.Admits s (run s t p).now

/-- Every call is refused at no events if it is refused now. -/
lemma refusing_nil : Refusing s t [] ↔ ¬t.breaker.Admits s t.now := by
  constructor
  · exact fun h => h [] List.nil_prefix
  · intro h p hp
    rw [List.prefix_nil.mp hp]
    exact h

/-- Every call is refused at some events if it is refused now and from the first of them on. -/
lemma refusing_cons {rest : List Event} :
    Refusing s t (e :: rest) ↔
      ¬t.breaker.Admits s t.now ∧ Refusing s (t.step s e).2 rest := by
  constructor
  · exact fun h => ⟨h [] List.nil_prefix, fun p hp =>
      h (e :: p) (List.cons_prefix_cons.mpr ⟨rfl, hp⟩)⟩
  · rintro ⟨hnow, hrest⟩ p hp
    rcases List.prefix_cons_iff.mp hp with rfl | ⟨q, rfl, hq⟩
    · exact hnow
    · exact hrest q hq

/-- An open breaker refuses every call exactly until its timeout is over. -/
lemma refusing_iff_of_cooling {opening : Nat} : ∀ (events : List Event) {t : Traffic},
    t.breaker.Cooling opening → opening ≤ t.now →
      (Refusing s t events ↔ (run s t events).now < opening + s.timeout)
  | [], t, hcooling, hopening => by
    rw [refusing_nil, run_nil, hcooling.admits_iff hopening, Nat.not_le]
  | e :: rest, t, hcooling, hopening => by
    have hnow := (stepped s t e).now_eq
    by_cases hearly : t.now < opening + s.timeout
    · have hrefused : ¬t.breaker.Admits s t.now := by
        rw [hcooling.admits_iff hopening]
        exact Nat.not_le.mpr hearly
      have hstep := (stepped s t e).cooling hcooling fun _ => hrefused
      rw [refusing_cons, and_iff_right hrefused, run_cons]
      exact refusing_iff_of_cooling rest hstep (hnow ▸ Nat.le_add_right_of_le hopening)
    · have hover := Nat.not_lt.mp hearly
      rw [refusing_cons, hcooling.admits_iff hopening, now_run]
      constructor
      · exact fun h => absurd hover h.1
      · exact fun h => absurd (Nat.lt_of_le_of_lt (Nat.le_add_right _ _) h) hearly

/-- **As long as a half-open breaker waits for its trial, every call is refused exactly when
nothing disturbs it.** -/
theorem refused_iff_undisturbed : ∀ (events : List Event) {t : Traffic},
    t.breaker.gate = .halfOpen → t.breaker.onTrial = true →
      (Refusing s t events ↔ Undisturbed s t events)
  | [], t, hgate, htrial => by
    refine ⟨fun _ => trivial, fun _ p hp => ?_⟩
    rw [List.prefix_nil.mp hp]
    exact not_admits_of_onTrial hgate htrial
  | e :: rest, t, hgate, htrial => by
    have hreport := (stepped s t e).report hgate htrial
    rw [refusing_cons, and_iff_right (not_admits_of_onTrial hgate htrial), Undisturbed]
    split at hreport <;> rename_i hcase <;> rw [hcase]
    · rw [← hreport] at hgate htrial
      exact refused_iff_undisturbed rest hgate htrial
    · rw [refusing_iff_of_cooling rest hreport.1 (Nat.le_of_eq hreport.2.symm), now_run, hreport.2]
      simp
    · simp only [Bool.false_eq_true, false_and, iff_false]
      exact fun h => h [] List.nil_prefix (admits_of_closed hreport)

/-! ## Histories -/

/-- In the course of some events, from the time that a trial is let through until it ends, every
other call that arrives is refused, and no two trials run at a time. -/
structure SingleTrial (s : BreakerSettings) (events : List Event) : Prop where
  /-- Every other call is refused while a trial runs. -/
  refused : ∀ before id after, before ++ .start id :: after <+: events →
    Trial s before id after → ¬(run s {} (before ++ .start id :: after)).breaker.Admits s
      (run s {} (before ++ .start id :: after)).now
  /-- No two trials run at a time. -/
  alone : ∀ p, p <+: events → (run s {} p).running.countP (·.2) ≤ 1

/-- No trial runs at a time when a call is let through, if calls are refused while one runs. -/
lemma no_trial_of_admits {before : List Event}
    (hadmits : (run s {} before).breaker.Admits s (run s {} before).now)
    (hrefused : ∀ first id rest, before = first ++ .start id :: rest → Trial s first id rest →
      ¬(run s {} before).breaker.Admits s (run s {} before).now) :
    ∀ call ∈ (run s {} before).running, call.2 = false := by
  rintro ⟨id, trial⟩ hcall
  cases trial with
  | false => rfl
  | true =>
    obtain ⟨first, rest, hsplit, htrial⟩ := exists_trial_of_running s before hcall
    exact absurd hadmits (hrefused first id rest hsplit htrial)

/-- A trial let through while no other runs makes the breaker half open. -/
lemma Trial.halfOpen {before after : List Event} (h : Trial s before id after)
    (hnone : ∀ call ∈ (run s {} before).running, call.2 = false) :
    (run s {} (before ++ [.start id])).breaker.gate = .halfOpen ∧
      (run s {} (before ++ [.start id])).breaker.onTrial = true := by
  obtain ⟨b, hadmitted⟩ := h.admitted
  have hb : b.gate = .halfOpen ∧ b.onTrial = true := by
    rcases arrive_eq_admitted hadmitted with ⟨-, htrial, -⟩ | ⟨-, -, rfl⟩ | ⟨hhalf, -⟩
    · exact absurd htrial nofun
    · exact ⟨rfl, rfl⟩
    · exact absurd (h.opened.symm.trans hhalf) nofun
  rw [run_concat, step, hadmitted]
  dsimp only [giveUp]
  cases hold : (run s {} before).running.lookup id with
  | none => exact hb
  | some old =>
    obtain ⟨first, rest, hrunning, -⟩ := List.lookup_eq_some_iff.mp hold
    obtain rfl : old = false :=
      hnone (id, old) (hrunning ▸ List.mem_append_right _ List.mem_cons_self)
    exact hb

/-- There are no more trials after an event than before, or one more if a call is let through. -/
lemma Stepped.countP_running_le (h : Stepped s t e u) :
    u.running.countP (·.2) ≤ t.running.countP (·.2) ∨
      t.breaker.Admits s t.now ∧ u.running.countP (·.2) ≤ t.running.countP (·.2) + 1 := by
  cases h with
  | refused | called | unknown | passed => exact Or.inl (Nat.le_refl _)
  | started _ h =>
    refine Or.inr ⟨⟨_, _, h⟩, ?_⟩
    rw [List.countP_cons]
    split_ifs <;> omega
  | @replaced i _ _ _ _ h =>
    refine Or.inr ⟨⟨_, _, h⟩, ?_⟩
    have hfewer : (t.running.filter (·.1 != i)).countP (·.2) ≤ t.running.countP (·.2) :=
      List.filter_sublist.countP_le
    rw [List.countP_cons]
    split_ifs <;> omega
  | ended | cancelled => exact Or.inl (List.filter_sublist.countP_le)

/-- Where no other trial runs, calls are refused while a trial runs exactly when nothing disturbs
it. -/
lemma Trial.refused_iff {before after : List Event} (h : Trial s before id after)
    (hnone : ∀ call ∈ (run s {} before).running, call.2 = false) :
    (∀ p, p <+: after → ¬(run s {} (before ++ .start id :: p)).breaker.Admits s
        (run s {} (before ++ .start id :: p)).now) ↔
      Undisturbed s (run s {} (before ++ [.start id])) after := by
  obtain ⟨hgate, htrial⟩ := h.halfOpen hnone
  have hrun : ∀ p, run s {} (before ++ .start id :: p) =
      run s (run s {} (before ++ [.start id])) p := fun p => by
    rw [← run_append, List.append_assoc, List.singleton_append]
  rw [← refused_iff_undisturbed after hgate htrial]
  exact forall₂_congr fun p _ => by rw [hrun p]

/-- If nothing disturbs a trial, calls are refused while one runs.

**Proof sketch.** Induction on the time at which the trial is let through. A trial that still runs
at that time was let through before, so that the call would have been refused. So no other trial
runs, and the breaker waits for this one. -/
lemma refused_of_undisturbed
    (h : ∀ before id after, before ++ .start id :: after <+: events → Trial s before id after →
      Undisturbed s (run s {} (before ++ [.start id])) after) :
    ∀ before id after, before ++ .start id :: after <+: events → Trial s before id after →
      ¬(run s {} (before ++ .start id :: after)).breaker.Admits s
        (run s {} (before ++ .start id :: after)).now := by
  intro before
  induction hlength : before.length using Nat.strongRecOn generalizing before with
  | _ n ih =>
    intro id after hprefix htrial
    have hnone : ∀ call ∈ (run s {} before).running, call.2 = false := by
      refine no_trial_of_admits ⟨true, htrial.admitted⟩ fun first id' rest hsplit hfirst => ?_
      have hearlier : first.length < n := by
        rw [← hlength, hsplit]
        simp
      rw [hsplit]
      exact ih _ hearlier first rfl id' rest
        (hsplit ▸ (List.prefix_append _ _).trans hprefix) hfirst
    exact (htrial.refused_iff hnone).mpr (h before id after hprefix htrial) after
      List.prefix_rfl

/-- If calls are refused while a trial runs, no two trials run at a time. -/
lemma countP_running_le_one
    (h : ∀ before id after, before ++ .start id :: after <+: events → Trial s before id after →
      ¬(run s {} (before ++ .start id :: after)).breaker.Admits s
        (run s {} (before ++ .start id :: after)).now) :
    ∀ p, p <+: events → (run s {} p).running.countP (·.2) ≤ 1 := by
  intro p
  induction p using List.reverseRecOn with
  | nil => exact fun _ => Nat.zero_le 1
  | append_singleton p e ih =>
    intro hprefix
    have hp : p <+: events := (List.prefix_append p [e]).trans hprefix
    rw [run_concat]
    rcases (stepped s (run s {} p) e).countP_running_le with hle | ⟨hadmits, hle⟩
    · exact Nat.le_trans hle (ih hp)
    · have hnone := no_trial_of_admits hadmits fun first id rest hsplit htrial =>
        hsplit ▸ h first id rest (hsplit ▸ hp) htrial
      have hzero : (run s {} p).running.countP (·.2) = 0 :=
        List.countP_eq_zero.mpr fun call hcall => by simp [hnone call hcall]
      rwa [hzero] at hle

/-- **There is a single trial exactly when nothing disturbs one.** In the course of any events,
calls are refused while a trial runs, and no second trial runs beside it, exactly when for every
trial the first other call that reports anything while it runs, if there is one, reports a failure,
and the trial ends before the timeout is over again.

**Proof sketch.** For one trial, with no other beside it, calls are refused while it runs exactly
when nothing disturbs it (`Trial.refused_iff`): the first report that is no failure closes the
breaker, a failure opens it, and an open breaker refuses until its timeout is over. That no other
trial runs follows from refusing, since a trial that is let through meets a breaker that admits
(`no_trial_of_admits`). In the other direction the trials are gone through in the order in which
they start (`refused_of_undisturbed`). -/
theorem singleTrial_iff_undisturbed (s : BreakerSettings) (events : List Event) :
    SingleTrial s events ↔
      ∀ before id after, before ++ .start id :: after <+: events → Trial s before id after →
        Undisturbed s (run s {} (before ++ [.start id])) after := by
  constructor
  · intro h before id after hprefix htrial
    have hnone := no_trial_of_admits ⟨true, htrial.admitted⟩ fun first id' rest hsplit hfirst =>
      hsplit ▸ h.refused first id' rest (hsplit ▸ (List.prefix_append _ _).trans hprefix) hfirst
    refine (htrial.refused_iff hnone).mp fun p hp => ?_
    have hshorter : before ++ .start id :: p <+: before ++ .start id :: after :=
      (List.prefix_append_right_inj before).mpr (List.cons_prefix_cons.mpr ⟨rfl, hp⟩)
    exact h.refused before id p (hshorter.trans hprefix)
      ⟨htrial.opened, htrial.admitted, fun e he => htrial.unended e (hp.subset he)⟩
  · intro h
    have hrefused := refused_of_undisturbed h
    exact ⟨hrefused, countP_running_le_one hrefused⟩

/-- A call let through by the closed breaker is answered while the trial runs. The breaker closes,
and lets calls through beside the trial. -/
theorem not_singleTrial_late_answer :
    ¬SingleTrial { maxFailures := 1, timeout := 20 }
      [.start "first", .start "late", .finish "first" .failed, .pass 20, .start "trial",
        .finish "late" .answered] := by
  intro h
  have htrial : Trial { maxFailures := 1, timeout := 20 }
      [.start "first", .start "late", .finish "first" .failed, .pass 20] "trial"
      [.finish "late" .answered] := by
    refine ⟨rfl, ⟨_, rfl⟩, fun e he => ?_⟩
    obtain rfl := List.mem_singleton.mp he
    decide
  exact h.refused _ "trial" _ List.prefix_rfl htrial (admits_of_closed rfl)

end QueryGate.Traffic
