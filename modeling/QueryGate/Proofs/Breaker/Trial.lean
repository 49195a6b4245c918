import Mathlib.Data.List.Induction
import QueryGate.Proofs.Breaker.Cooldown

set_option relaxedAutoImplicit false
set_option autoImplicit false

/-!
# Trials on a half-open breaker

A breaker is half open only as long as the trial runs that made it so. It never stays half open
without one, so that a breaker on which nothing runs is closed, or open until its time is over.

## Main definitions

* `QueryGate.Traffic.Trial` — a trial that was let through and runs on.

## Main results

* `QueryGate.Traffic.trial_of_halfOpen` — the trial that a half-open breaker waits for.
* `QueryGate.Traffic.opens_of_opened` — the event since which a breaker is open.
* `QueryGate.Traffic.never_stuck` — a breaker without a trial lets calls through in the end.
-/

namespace QueryGate.Traffic

open Breaker

variable {s : BreakerSettings} {t u : Traffic} {e : Event} {events : List Event} {id : String}

/-! ## Running calls -/

/-- A name in a list without the entries of another name. -/
lemma lookup_filter {α : Type} (i id : String) : ∀ l : List (String × α),
    (l.filter (·.1 != i)).lookup id = if id = i then none else l.lookup id
  | [] => by simp
  | (k, v) :: rest => by
    rw [List.filter_cons]
    by_cases hk : k = i
    · subst hk
      rw [if_neg (by simp), lookup_filter k id rest]
      by_cases hid : id = k
      · rw [if_pos hid, if_pos hid]
      · rw [if_neg hid, if_neg hid, List.lookup_cons, beq_false_of_ne hid]
    · rw [if_pos (by simpa using hk), List.lookup_cons, List.lookup_cons, lookup_filter i id rest]
      by_cases hid : id = k
      · subst hid
        rw [beq_self_eq_true]
        exact (if_neg hk).symm
      · rw [beq_false_of_ne hid]

/-- An event ends the call of one name only. -/
lemma Event.eq_of_ends {i : String} (h : e.ends id = true) (hi : e.ends i = true) : id = i := by
  cases e with
  | finish | cancel => exact (eq_of_beq h).symm.trans (eq_of_beq hi)
  | _ => exact absurd h Bool.false_ne_true

/-- No call ends in an event in which one arrives. -/
lemma Event.ends_of_arrives (h : e.arrives = true) : e.ends id = false := by
  cases e with
  | call | start => rfl
  | _ => exact absurd h Bool.false_ne_true

/-- A call that runs was running before and has not ended, or has just been let through. -/
lemma Stepped.running_of_mem (h : Stepped s t e u) {trial : Bool}
    (hrunning : (id, trial) ∈ u.running) :
    (id, trial) ∈ t.running ∧ e.ends id = false ∨
      e = .start id ∧ ∃ b, t.breaker.arrive s t.now = .admitted trial b := by
  have hother : ∀ {i : String}, (id, trial) ∈ t.running.filter (·.1 != i) →
      (id, trial) ∈ t.running ∧ (i == id) = false := by
    intro i hmem
    obtain ⟨hmem, hne⟩ := List.mem_filter.mp hmem
    have hne : id ≠ i := by simpa using hne
    exact ⟨hmem, beq_false_of_ne hne.symm⟩
  cases h with
  | refused harrives => exact Or.inl ⟨hrunning, Event.ends_of_arrives harrives⟩
  | called h => exact Or.inl ⟨hrunning, rfl⟩
  | started _ h =>
    rcases List.mem_cons.mp hrunning with heq | hmem
    · obtain ⟨rfl, rfl⟩ := Prod.mk.inj heq
      exact Or.inr ⟨rfl, _, h⟩
    · exact Or.inl ⟨hmem, rfl⟩
  | replaced _ h =>
    rcases List.mem_cons.mp hrunning with heq | hmem
    · obtain ⟨rfl, rfl⟩ := Prod.mk.inj heq
      exact Or.inr ⟨rfl, _, h⟩
    · exact Or.inl ⟨(hother hmem).1, rfl⟩
  | @unknown _ i hends hnone =>
    refine Or.inl ⟨hrunning, Bool.eq_false_iff.mpr fun h => ?_⟩
    rw [Event.eq_of_ends hends h, List.lookup_eq_none_iff] at hnone
    exact absurd (hnone _ hrunning) (by simp)
  | ended | cancelled => exact Or.inl (hother hrunning)
  | passed => exact Or.inl ⟨hrunning, rfl⟩

/-! ## The trial of a half-open breaker -/

/-- A trial of the name `id` is let through by an open breaker after the events `before`, and does
not end in the events `after`. -/
structure Trial (s : BreakerSettings) (before : List Event) (id : String) (after : List Event) :
    Prop where
  /-- The breaker is open. -/
  opened : (run s {} before).breaker.gate = .opened
  /-- The call is let through as a trial. -/
  admitted : ∃ b, (run s {} before).breaker.arrive s (run s {} before).now = .admitted true b
  /-- It does not end. -/
  unended : ∀ e ∈ after, e.ends id = false

/-- A trial runs on through an event in which it does not end. -/
lemma Trial.concat {before after : List Event} (h : Trial s before id after)
    (he : e.ends id = false) : Trial s before id (after ++ [e]) := by
  refine ⟨h.opened, h.admitted, fun e' he' => ?_⟩
  rcases List.mem_append.mp he' with he' | he'
  · exact h.unended e' he'
  · rwa [List.mem_singleton.mp he']

/-- A half-open breaker was made so by a trial let through in this event, or it was half open
before, and then the event changes nothing about it and its trial. -/
lemma Stepped.halfOpen (h : Stepped s t e u) (hgate : u.breaker.gate = .halfOpen)
    (htrial : t.breaker.gate = .halfOpen → t.breaker.onTrial = true) :
    (∃ id, e = .start id ∧ t.breaker.gate = .opened ∧
        (∃ b, t.breaker.arrive s t.now = .admitted true b) ∧
        u.breaker.onTrial = true ∧ u.running.lookup id = some true) ∨
      (t.breaker.gate = .halfOpen ∧ u.breaker = t.breaker ∧
        ∀ id, t.running.lookup id = some true →
          e.ends id = false ∧ u.running.lookup id = some true) := by
  -- A call let through can only be a trial let through by an open breaker.
  have hadmitted : ∀ {trial b}, t.breaker.arrive s t.now = .admitted trial b →
      b.gate = .halfOpen → t.breaker.gate = .opened ∧ trial = true ∧ b.onTrial = true := by
    intro trial b h hb
    rcases arrive_eq_admitted h with ⟨hclosed, -, rfl⟩ | ⟨hopened, rfl, rfl⟩ |
      ⟨hhalf, hoff, -, -⟩
    · exact absurd (hclosed.symm.trans hb) nofun
    · exact ⟨hopened, rfl, rfl⟩
    · exact absurd (hoff.symm.trans (htrial hhalf)) Bool.false_ne_true
  cases h with
  | refused harrives =>
    exact Or.inr ⟨hgate, rfl, fun id hid => ⟨Event.ends_of_arrives harrives, hid⟩⟩
  | called h => exact absurd hgate gate_settle_ne_halfOpen
  | started _ h =>
    obtain ⟨hopened, rfl, htrial⟩ := hadmitted h hgate
    exact Or.inl ⟨_, rfl, hopened, ⟨_, h⟩, htrial, List.lookup_cons_self⟩
  | @replaced _ _ old _ _ h =>
    cases old with
    | true => exact absurd hgate gate_cancel_true_ne_halfOpen
    | false =>
      obtain ⟨hopened, rfl, htrial⟩ := hadmitted h hgate
      exact Or.inl ⟨_, rfl, hopened, ⟨_, h⟩, htrial, List.lookup_cons_self⟩
  | unknown hends hnone =>
    refine Or.inr ⟨hgate, rfl, fun id hid => ⟨Bool.eq_false_iff.mpr fun h => ?_, hid⟩⟩
    rw [Event.eq_of_ends hends h, hid] at hnone
    exact absurd hnone nofun
  | ended => exact absurd hgate gate_settle_ne_halfOpen
  | @cancelled i trial h =>
    cases trial with
    | true => exact absurd hgate gate_cancel_true_ne_halfOpen
    | false =>
      refine Or.inr ⟨hgate, rfl, fun id hid => ?_⟩
      have hne : id ≠ i := by
        rintro rfl
        exact absurd (h.symm.trans hid) nofun
      exact ⟨beq_false_of_ne hne.symm, by rw [lookup_filter, if_neg hne, hid]⟩
  | passed => exact Or.inr ⟨hgate, rfl, fun id hid => ⟨rfl, hid⟩⟩

/-- The trial that a half-open breaker waits for. It was let through when the breaker was open, the
breaker is half open ever since, and it runs. -/
structure Awaits (s : BreakerSettings) (events : List Event) (id : String) : Prop where
  /-- The trial and what happened since. -/
  trial : ∃ before after, events = before ++ .start id :: after ∧ Trial s before id after ∧
    ∀ p, p <+: after → (run s {} (before ++ .start id :: p)).breaker.gate = .halfOpen
  /-- The trial runs. -/
  running : (run s {} events).running.lookup id = some true

/-- **A half-open breaker waits for the trial that made it so.** -/
theorem trial_of_halfOpen (s : BreakerSettings) (events : List Event)
    (h : (run s {} events).breaker.gate = .halfOpen) :
    (run s {} events).breaker.onTrial = true ∧ ∃ id, Awaits s events id := by
  induction events using List.reverseRecOn with
  | nil => exact absurd h nofun
  | append_singleton events e ih =>
    have hstep := stepped s (run s {} events) e
    rw [← run_concat] at hstep
    rcases hstep.halfOpen h fun hgate => (ih hgate).1 with
      ⟨id, rfl, hopened, hadmitted, htrial, hid⟩ | ⟨hgate, hsame, hkeeps⟩
    · refine ⟨htrial, id, ⟨events, [], rfl, ⟨hopened, hadmitted, nofun⟩, fun p hp => ?_⟩, hid⟩
      rw [List.prefix_nil.mp hp]
      exact h
    · obtain ⟨htrial, id, ⟨before, after, rfl, hwindow, hhalf⟩, hid⟩ := ih hgate
      obtain ⟨hends, hid⟩ := hkeeps id hid
      refine ⟨hsame ▸ htrial, id, ⟨before, after ++ [e], by simp, hwindow.concat hends,
        fun p hp => ?_⟩, hid⟩
      rcases List.prefix_concat_iff.mp hp with rfl | hp
      · rwa [List.append_assoc, List.cons_append] at h
      · exact hhalf p hp

/-- An open breaker is open since an event that opened it. -/
theorem opens_of_opened (s : BreakerSettings) (events : List Event)
    (h : (run s {} events).breaker.gate = .opened) :
    ∃ before e after, events = before ++ e :: after ∧ Opens s (run s {} before) e ∧
      (run s {} events).breaker.Cooling (run s {} before).now := by
  induction events using List.reverseRecOn with
  | nil => exact absurd h nofun
  | append_singleton events e ih =>
    by_cases hopens : Opens s (run s {} events) e
    · refine ⟨events, e, [], rfl, hopens, ?_⟩
      rw [run_concat]
      exact hopens.cooling
    · rw [run_concat] at h
      have hbefore : (run s {} events).breaker.gate = .opened ∧
          (e.arrives = true → ¬(run s {} events).breaker.Admits s (run s {} events).now) := by
        by_contra hnot
        exact hopens ⟨h, fun hgate => by simpa [hgate] using hnot⟩
      obtain ⟨before, e', after, rfl, hopens', hcooling⟩ := ih hbefore.1
      refine ⟨before, e', after ++ [e], by simp, hopens', ?_⟩
      rw [run_concat]
      exact (stepped s _ e).cooling hcooling hbefore.2

/-- A call that is let through as a trial is let through by an open breaker. -/
lemma opened_of_trial {b : Breaker}
    (h : (run s {} events).breaker.arrive s (run s {} events).now = .admitted true b) :
    (run s {} events).breaker.gate = .opened := by
  rcases arrive_eq_admitted h with ⟨-, htrial, -⟩ | ⟨hopened, -, -⟩ | ⟨hhalf, hoff, -, -⟩
  · exact absurd htrial nofun
  · exact hopened
  · exact absurd (hoff.symm.trans (trial_of_halfOpen s events hhalf).1) Bool.false_ne_true

/-- A trial that runs was let through by an open breaker and has not ended since. -/
lemma exists_trial_of_running (s : BreakerSettings) (events : List Event)
    (h : (id, true) ∈ (run s {} events).running) :
    ∃ before after, events = before ++ .start id :: after ∧ Trial s before id after := by
  induction events using List.reverseRecOn with
  | nil => exact absurd h List.not_mem_nil
  | append_singleton events e ih =>
    rw [run_concat] at h
    rcases (stepped s _ e).running_of_mem h with ⟨hbefore, hends⟩ | ⟨rfl, b, hadmitted⟩
    · obtain ⟨before, after, rfl, htrial⟩ := ih hbefore
      exact ⟨before, after ++ [e], by simp, htrial.concat hends⟩
    · exact ⟨events, [], rfl, opened_of_trial hadmitted, ⟨b, hadmitted⟩, nofun⟩

/-- **A breaker cannot get stuck.** While it is half open a trial runs, the one that made it so: it
has been let through when the breaker was open, and has not ended since. So a breaker on which no
trial runs is closed or open, and it lets a call through as soon as its timeout is over since it
was last opened.

**Proof sketch.** Only a call that is let through by an open breaker makes it half open, and
whatever ends that call closes or opens it again. By induction on the events, the last one first, a
half-open breaker is on trial and waits for that call (`trial_of_halfOpen`), and an open one was
opened by some event and has kept the time since (`opens_of_opened`). Without a trial it is thus
closed, or open and admits as soon as the timeout is over. -/
theorem never_stuck (s : BreakerSettings) (events : List Event) :
    let t := run s {} events
    (t.breaker.gate = .halfOpen → t.breaker.onTrial = true ∧ ∃ id, Awaits s events id) ∧
      ((∀ call ∈ t.running, call.2 = false) →
        (t.breaker.gate = .closed ∨ t.breaker.gate = .opened) ∧
          ((∀ before e after, events = before ++ e :: after → Opens s (run s {} before) e →
            (run s {} before).now + s.timeout ≤ t.now) → t.breaker.Admits s t.now)) := by
  intro t
  refine ⟨trial_of_halfOpen s events, fun hnone => ?_⟩
  cases hgate : t.breaker.gate with
  | closed => exact ⟨Or.inl rfl, fun _ => admits_of_closed hgate⟩
  | opened =>
    refine ⟨Or.inr rfl, fun hover => ?_⟩
    obtain ⟨before, e, after, hsplit, hopens, hcooling⟩ := opens_of_opened s events hgate
    exact ⟨true, _, hcooling.arrive_over (hover before e after hsplit hopens)⟩
  | halfOpen =>
    obtain ⟨-, id, -, hid⟩ := trial_of_halfOpen s events hgate
    obtain ⟨first, rest, hrunning, -⟩ := List.lookup_eq_some_iff.mp hid
    exact absurd (hnone (id, true) (hrunning ▸ List.mem_append_right _ List.mem_cons_self)) nofun

/-- After a failure and the timeout a call is let through, and while it runs the breaker is half
open. -/
theorem never_stuck_after_failure :
    let s : BreakerSettings := { maxFailures := 1, timeout := 20 }
    let waiting : List Event := [.call .failed, .pass 20]
    let trying := waiting ++ [.start "trial"]
    (run s {} waiting).breaker.gate = .opened ∧
      (run s {} waiting).breaker.Admits s (run s {} waiting).now ∧
      (run s {} trying).breaker.gate = .halfOpen ∧ ∃ id, Awaits s trying id := by
  intro s waiting trying
  have hover : ∀ before e after, waiting = before ++ e :: after → Opens s (run s {} before) e →
      (run s {} before).now + s.timeout ≤ (run s {} waiting).now := by
    rintro (_ | ⟨_, _ | _⟩) e after hsplit hopens
    · decide
    · obtain ⟨rfl, rfl, -⟩ : _ ∧ .pass 20 = e ∧ _ := by simpa [waiting] using hsplit
      exact absurd (hopens.2 rfl).1 Bool.false_ne_true
    · simp [waiting] at hsplit
  exact ⟨rfl, ((never_stuck s waiting).2 nofun).2 hover, rfl, ((never_stuck s trying).1 rfl).2⟩

end QueryGate.Traffic
