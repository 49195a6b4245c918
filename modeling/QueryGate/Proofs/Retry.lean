import Mathlib.Data.List.Basic
import QueryGate.Retry

set_option relaxedAutoImplicit false
set_option autoImplicit false

/-!
# The course of an operation that is tried again

An operation is tried until it has a value or fails for good, until no attempt is left, or until a
failure asks for a wait that is no length of time.

## Main definitions

* `QueryGate.Span.IsTooLong` — the numbers of seconds that are no length of time.
* `QueryGate.RetryPolicy.stateAt`, `QueryGate.RetryPolicy.outcomeAt` — what each attempt meets, and
  how it ends.
* `QueryGate.RetryPolicy.Course` — how a run ends, after which waits and in which state.

## Main results

* `QueryGate.RetryPolicy.course_run` — every run has such a course.
* `QueryGate.RetryPolicy.run_eq_overflow_iff` — which runs end in a wait that is no length of time.
* `QueryGate.RetryPolicy.run_eq_value_iff` — which runs end with a value.
-/

namespace QueryGate

/-! ## Waits that are asked for -/

/-- The numbers of seconds that are no length of time: infinity, and all from `2 ^ 64` on. -/
def Span.IsTooLong (x : Float) : Prop :=
  match Decimal.read x with
  | .finite negative ⟨m, q, _⟩ =>
    negative = false ∧ Decimal.twoTo 64 * Decimal.twoTo (-q).toNat ≤ m * Decimal.twoTo q.toNat
  | .infinite negative => negative = false
  | .undefined => False

/-- A number of seconds is a length of time unless it is too long. -/
lemma Span.ofSeconds?_eq_none_iff {x : Float} : Span.ofSeconds? x = none ↔ Span.IsTooLong x := by
  unfold ofSeconds? IsTooLong
  rcases Decimal.read x with ⟨_ | _, m, q, narrow⟩ | ⟨_ | _⟩ | _
  · have hlong : Word.maxUnsigned < m * Decimal.twoTo q.toNat / Decimal.twoTo (-q).toNat ↔
        Decimal.twoTo 64 * Decimal.twoTo (-q).toNat ≤ m * Decimal.twoTo q.toNat :=
      Nat.le_div_iff_mul_le (Nat.two_pow_pos _)
    dsimp only
    rw [← hlong]
    split_ifs with hlong
    · exact ⟨fun _ => ⟨rfl, hlong⟩, fun _ => rfl⟩
    · exact ⟨nofun, fun h => absurd h.2 hlong⟩
  all_goals simp

/-- A failure asks for a wait that is no length of time. -/
def Failure.AsksTooLong (f : Failure) : Prop := ∃ x, f.retryAfter = some x ∧ Span.IsTooLong x

/-- What is out of service for the moment asks for the wait that it names. -/
lemma Failure.asksTooLong_unavailable_iff {detail : String} {after : Float} :
    (Failure.unavailable detail after).AsksTooLong ↔ Span.IsTooLong after := by
  simp [AsksTooLong, retryAfter]

/-- Only a failure that may pass asks for a wait. -/
lemma Failure.AsksTooLong.isRetryable {f : Failure} (h : f.AsksTooLong) : f.isRetryable = true := by
  obtain ⟨x, hx, -⟩ := h
  cases f with
  | unavailable detail after => rfl
  | _ => exact absurd hx nofun

namespace RetryPolicy

/-- There is a wait after an attempt unless the failure asks for one that is too long. -/
lemma wait?_eq_none_iff {p : RetryPolicy} {jitter attempt : Nat} {f : Failure} :
    p.wait? jitter attempt f = none ↔ f.AsksTooLong := by
  unfold wait? Failure.AsksTooLong
  cases f.retryAfter with
  | none => simp
  | some x => simp [Span.ofSeconds?_eq_none_iff]

/-! ## Attempts -/

section

variable {σ α : Type} (operation : σ → Except Failure α × σ)

/-- The state that attempt number `n` meets, counted from zero. -/
def stateAt : σ → Nat → σ
  | s, 0 => s
  | s, n + 1 => stateAt (operation s).2 n

/-- How attempt number `n` ends, counted from zero. -/
def outcomeAt (s : σ) (n : Nat) : Except Failure α := (operation (stateAt operation s n)).1

end

section

variable {σ α : Type} (p : RetryPolicy) (jitter : Nat → Nat) (operation : σ → Except Failure α × σ)

/-- A run ends so because attempt number `n` does, when no attempt follows attempt number `last`.
Waits are numbered from `start`. -/
def EndsBy (last start n : Nat) (outcome : Except Failure α) : Ending α → Prop
  | .value a => outcome = .ok a
  | .failure f => outcome = .error f ∧ (f.isRetryable = true → n = last)
  | .overflow => ∃ f, outcome = .error f ∧ f.isRetryable = true ∧ n < last ∧
      p.wait? (jitter (start + n)) (start + n) f = none

/-- How a run ends, after which waits and in which state: every attempt but the last one fails in a
way that may pass and is followed by its wait, and the last one ends the run. -/
structure Course (last start : Nat) (s : σ) (ending : Ending α) (waits : List Span) (s' : σ) :
    Prop where
  /-- There is a wait for every attempt but the last one, so not more than may be followed. -/
  within : waits.length ≤ last
  /-- An attempt that is followed by a wait has failed in a way that may pass. -/
  repeated : ∀ n wait, waits[n]? = some wait → ∃ f, outcomeAt operation s n = .error f ∧
    f.isRetryable = true ∧ p.wait? (jitter (start + n)) (start + n) f = some wait
  /-- The last attempt ends the run. -/
  ended : p.EndsBy jitter last start waits.length (outcomeAt operation s waits.length) ending
  /-- The state is that after the last attempt. -/
  state : s' = stateAt operation s (waits.length + 1)

variable {p jitter operation}

/-- The course of a run that ends with its first attempt. -/
lemma Course.single {last start : Nat} {s : σ} {ending : Ending α}
    (h : p.EndsBy jitter last start 0 (operation s).1 ending) :
    Course p jitter operation last start s ending [] (operation s).2 where
  within := Nat.zero_le _
  repeated := by simp
  ended := h
  state := rfl

/-- The course of a run that goes on after its first attempt. -/
lemma Course.cons {last start : Nat} {s s' : σ} {ending : Ending α} {waits : List Span}
    {wait : Span} {f : Failure} (hfails : (operation s).1 = .error f)
    (hretryable : f.isRetryable = true) (hwait : p.wait? (jitter start) start f = some wait)
    (h : Course p jitter operation last (start + 1) (operation s).2 ending waits s') :
    Course p jitter operation (last + 1) start s ending (wait :: waits) s' where
  within := Nat.succ_le_succ h.within
  repeated := by
    rintro (_ | n) w hw
    · obtain rfl := Option.some.inj hw
      exact ⟨f, hfails, hretryable, hwait⟩
    · obtain ⟨g, hg, hagain, hnext⟩ := h.repeated n w hw
      exact ⟨g, hg, hagain, by rwa [Nat.add_right_comm] at hnext⟩
  ended := by
    have hended := h.ended
    cases ending with
    | value a => exact hended
    | failure g => exact ⟨hended.1, fun hagain => congrArg Nat.succ (hended.2 hagain)⟩
    | overflow =>
      obtain ⟨g, hg, hagain, hlast, hnone⟩ := hended
      exact ⟨g, hg, hagain, Nat.succ_lt_succ hlast, by rwa [Nat.add_right_comm] at hnone⟩
  state := h.state

/-- A run from any attempt on has a course. -/
lemma exists_course : ∀ (left attempt : Nat) (before : List Span) (s : σ),
    ∃ waits, (p.runFrom jitter operation left attempt before s).2.1 = before.reverse ++ waits ∧
      Course p jitter operation left (attempt + 1) s
        (p.runFrom jitter operation left attempt before s).1 waits
        (p.runFrom jitter operation left attempt before s).2.2
  | left, attempt, before, s => by
    have hsingle : ∀ ending, p.EndsBy jitter left (attempt + 1) 0 (operation s).1 ending →
        Course p jitter operation left (attempt + 1) s ending [] (operation s).2 :=
      fun _ => .single
    unfold runFrom
    rcases hfirst : operation s with ⟨_ | _, next⟩
    case ok a =>
      rw [hfirst] at hsingle
      exact ⟨[], by simp, hsingle _ rfl⟩
    case error f =>
      rw [hfirst] at hsingle
      dsimp only
      by_cases hagain : f.isRetryable = true
      · rw [if_neg (by simp [hagain])]
        cases left with
        | zero => exact ⟨[], by simp, hsingle _ ⟨rfl, fun _ => rfl⟩⟩
        | succ left =>
          dsimp only
          cases hwait : p.wait? (jitter (attempt + 1)) (attempt + 1) f with
          | none => exact ⟨[], by simp, hsingle _ ⟨f, rfl, hagain, Nat.succ_pos _, hwait⟩⟩
          | some wait =>
            obtain ⟨waits, hwaits, hcourse⟩ :=
              exists_course left (attempt + 1) (wait :: before) (operation s).2
            rw [hfirst] at hwaits hcourse
            refine ⟨wait :: waits, by simp [hwaits], ?_⟩
            exact .cons (by rw [hfirst]) hagain hwait (by rwa [hfirst])
      · rw [if_pos (by simpa using hagain)]
        exact ⟨[], by simp, hsingle _ ⟨rfl, fun h => absurd h hagain⟩⟩

variable (p jitter operation)

/-- **An operation that is tried as the policy says has a course.** -/
theorem course_run (s : σ) :
    Course p jitter operation (max 1 p.maxAttempts - 1) 1 s (p.run jitter operation s).1
      (p.run jitter operation s).2.1 (p.run jitter operation s).2.2 := by
  obtain ⟨waits, hwaits, h⟩ : ∃ waits, (p.run jitter operation s).2.1 = [] ++ waits ∧ _ :=
    exists_course (max 1 p.maxAttempts - 1) 0 [] s
  rw [List.nil_append] at hwaits
  exact hwaits ▸ h

/-- **A run ends in a wait that is no length of time exactly when a failure asks for one, after
failures that may pass and nothing else, and while an attempt is left.** -/
theorem run_eq_overflow_iff (s : σ) : (p.run jitter operation s).1 = .overflow ↔
    ∃ n, n + 1 < p.maxAttempts ∧
      (∀ i < n, ∃ f, outcomeAt operation s i = .error f ∧ f.isRetryable = true) ∧
      ∃ f, outcomeAt operation s n = .error f ∧ f.AsksTooLong := by
  have h := p.course_run jitter operation s
  generalize (p.run jitter operation s).1 = ending at h
  generalize (p.run jitter operation s).2.1 = waits at h
  have hended := h.ended
  constructor
  · rintro rfl
    obtain ⟨f, hf, -, hlast, hnone⟩ := hended
    refine ⟨waits.length, by omega, fun i hi => ?_, f, hf, wait?_eq_none_iff.mp hnone⟩
    obtain ⟨g, hg, hagain, -⟩ := h.repeated i waits[i] (List.getElem?_eq_getElem hi)
    exact ⟨g, hg, hagain⟩
  · rintro ⟨n, hn, hbefore, f, hf, hlong⟩
    -- No attempt comes after one that asks for too long a wait.
    have hlength : waits.length ≤ n := by
      by_contra hmore
      obtain ⟨g, hg, -, hwait⟩ := h.repeated n waits[n]
        (List.getElem?_eq_getElem (Nat.lt_of_not_le hmore))
      obtain rfl := Except.error.inj (hf.symm.trans hg)
      rw [wait?_eq_none_iff.mpr hlong] at hwait
      exact absurd hwait nofun
    obtain ⟨g, hg, hagain⟩ : ∃ g, outcomeAt operation s waits.length = .error g ∧
        g.isRetryable = true := by
      rcases Nat.lt_or_eq_of_le hlength with hlt | heq
      · exact hbefore _ hlt
      · exact ⟨f, heq ▸ hf, hlong.isRetryable⟩
    cases ending with
    | value a => exact absurd (hended.symm.trans hg) nofun
    | failure g' =>
      obtain rfl := Except.error.inj (hended.1.symm.trans hg)
      have hlast := hended.2 hagain
      omega
    | overflow => rfl

/-- **A run ends with the value of the first attempt that has one, after failures that may pass and
ask for waits that are lengths of time, and nothing else.** -/
theorem run_eq_value_iff (s : σ) {a : α} : (p.run jitter operation s).1 = .value a ↔
    ∃ n, n < max 1 p.maxAttempts ∧
      (∀ i < n, ∃ f, outcomeAt operation s i = .error f ∧ f.isRetryable = true ∧
        ¬ f.AsksTooLong) ∧
      outcomeAt operation s n = .ok a := by
  have h := p.course_run jitter operation s
  generalize (p.run jitter operation s).1 = ending at h
  generalize (p.run jitter operation s).2.1 = waits at h
  have hended := h.ended
  have hwithin := h.within
  constructor
  · rintro rfl
    refine ⟨waits.length, by omega, fun i hi => ?_, hended⟩
    obtain ⟨f, hf, hagain, hwait⟩ := h.repeated i waits[i] (List.getElem?_eq_getElem hi)
    refine ⟨f, hf, hagain, fun hlong => ?_⟩
    rw [wait?_eq_none_iff.mpr hlong] at hwait
    exact absurd hwait nofun
  · rintro ⟨n, hn, hbefore, ha⟩
    -- No attempt comes after one that has a value.
    have hlength : waits.length ≤ n := by
      by_contra hmore
      obtain ⟨f, hf, -⟩ := h.repeated n waits[n]
        (List.getElem?_eq_getElem (Nat.lt_of_not_le hmore))
      exact absurd (ha.symm.trans hf) nofun
    rcases Nat.lt_or_eq_of_le hlength with hlt | heq
    · obtain ⟨f, hf, hagain, hshort⟩ := hbefore _ hlt
      cases ending with
      | value a' => exact absurd (hended.symm.trans hf) nofun
      | failure f' =>
        obtain rfl := Except.error.inj (hended.1.symm.trans hf)
        have hlast := hended.2 hagain
        omega
      | overflow =>
        obtain ⟨f', hf', -, -, hnone⟩ := hended
        obtain rfl := Except.error.inj (hf'.symm.trans hf)
        exact absurd (wait?_eq_none_iff.mp hnone) hshort
    · obtain rfl := heq
      cases ending with
      | value a' => exact congrArg _ (Except.ok.inj (hended.symm.trans ha))
      | failure f => exact absurd (hended.1.symm.trans ha) nofun
      | overflow =>
        obtain ⟨f, hf, -⟩ := hended
        exact absurd (hf.symm.trans ha) nofun

end

end RetryPolicy

end QueryGate
