import Mathlib.Algebra.Group.Nat.Defs
import QueryGate.Proofs.Retry

set_option relaxedAutoImplicit false
set_option autoImplicit false

/-!
# The schedule of attempts

An operation that is tried again has as many waits as it needs: one between two attempts. Each
doubles with the attempts up to the ceiling, and is as long as the failure before it asks for. The
numbers stay within 64 bits, and where one is cut off there the ceiling cuts off more.

## Main definitions

* `QueryGate.Failure.Asks` — a failure asks for a wait.
* `QueryGate.RetryPolicy.Waits` — the bounds on a wait.
* `QueryGate.RetryPolicy.Schedule` — what attempts are made, with which waits between them.

## Main results

* `QueryGate.RetryPolicy.delay_eq` — the wait after an attempt as if numbers had no bound.
* `QueryGate.RetryPolicy.waits_of_wait?` — every wait is within its bounds.
* `QueryGate.RetryPolicy.run_schedule` — every run in which the waits are lengths of time keeps to
  the schedule.
-/

namespace QueryGate

/-- A failure asks for a wait: the operation is out of service and names a length of time. -/
def Failure.Asks (f : Failure) (wait : Span) : Prop :=
  ∃ detail after, f = .unavailable detail after ∧ Span.ofSeconds? after = some wait

/-- What a failure asks for is read off the number of seconds that it names. -/
lemma Failure.asks_iff {f : Failure} {wait : Span} :
    f.Asks wait ↔ ∃ seconds, f.retryAfter = some seconds ∧ Span.ofSeconds? seconds = some wait := by
  cases f <;> simp [Asks, retryAfter]

lemma Span.ofMillis_le {m n : Nat} (h : m ≤ n) : ofMillis m ≤ ofMillis n :=
  Nat.mul_le_mul_right millisecond h

namespace RetryPolicy

/-! ## Waits -/

variable {p : RetryPolicy} {j k : Nat} {f : Failure} {wait : Span}

/-- A product is cut off alike whether or not a factor is cut off first. -/
lemma min_mul_min (bound a b : Nat) : min bound (a * min bound b) = min bound (a * b) := by
  rcases Nat.eq_zero_or_pos a with rfl | ha
  · rw [Nat.zero_mul, Nat.zero_mul]
  rcases Nat.le_total b bound with hle | hle
  · rw [Nat.min_eq_right hle]
  · have hbound : bound ≤ a * bound := Nat.le_mul_of_pos_left bound ha
    have hproduct : a * bound ≤ a * b := Nat.mul_le_mul_left a hle
    rw [Nat.min_eq_left hle, Nat.min_eq_left hbound, Nat.min_eq_left (Nat.le_trans hbound hproduct)]

/-- From `2 ^ 64` on all powers of two are cut off alike. -/
lemma min_maxUnsigned_twoTo (k : Nat) :
    min Word.maxUnsigned (Decimal.twoTo (min k 64)) = min Word.maxUnsigned (2 ^ k) := by
  rcases Nat.le_total k 64 with hk | hk
  · rw [Nat.min_eq_left hk]
    rfl
  · have hword : Word.maxUnsigned ≤ 2 ^ 64 := by decide
    have hpow : 2 ^ 64 ≤ 2 ^ k := Nat.pow_le_pow_right (by decide) hk
    rw [Nat.min_eq_right hk, Nat.min_eq_left (Nat.le_trans hword hpow)]
    exact Nat.min_eq_left hword

/-- **The wait after an attempt is what it would be if numbers had no bound.** -/
lemma delay_eq (hmax : p.maxDelay ≤ Word.maxUnsigned) (j k : Nat) :
    p.delay j k = min (p.baseDelay * 2 ^ k + j) p.maxDelay := by
  unfold delay
  dsimp only
  rw [min_maxUnsigned_twoTo, min_mul_min]
  omega

/-- The bounds on the wait after attempt number `k` that failed with `f`. -/
structure Waits (p : RetryPolicy) (j k : Nat) (f : Failure) (wait : Span) : Prop where
  /-- The wait is what the policy says, or what the failure asks for if that is longer. Nothing is
  cut off but by the ceiling. -/
  eq : ∃ asked, (∀ longer, f.Asks longer → longer ≤ asked) ∧ (asked = 0 ∨ f.Asks asked) ∧
    wait = max (Span.ofMillis (min (p.baseDelay * 2 ^ k + j) p.maxDelay)) asked
  /-- It has doubled with every attempt, up to the ceiling. -/
  least : Span.ofMillis (min p.maxDelay (p.baseDelay * 2 ^ k)) ≤ wait
  /-- It is as long as the failure asks for. -/
  asked : ∀ longer, f.Asks longer → longer ≤ wait
  /-- It is no longer than the ceiling and what the failure asks for. -/
  most : wait ≤ Span.ofMillis p.maxDelay ∨ ∃ longer, f.Asks longer ∧ wait ≤ longer

/-- Every wait is within its bounds. -/
lemma waits_of_wait? (hmax : p.maxDelay ≤ Word.maxUnsigned) (h : p.wait? j k f = some wait) :
    p.Waits j k f wait := by
  obtain ⟨asked, hlongest, hasked, rfl⟩ : ∃ asked, (∀ longer, f.Asks longer → longer ≤ asked) ∧
      (asked = 0 ∨ f.Asks asked) ∧
      wait = max (Span.ofMillis (min (p.baseDelay * 2 ^ k + j) p.maxDelay)) asked := by
    unfold wait? at h
    rw [delay_eq hmax] at h
    dsimp only at h
    simp only [Failure.asks_iff]
    cases hafter : f.retryAfter with
    | none =>
      rw [hafter] at h
      refine ⟨0, fun longer hasks => ?_, .inl rfl, ?_⟩
      · obtain ⟨seconds, hseconds, -⟩ := hasks
        exact absurd hseconds nofun
      · rw [Nat.max_zero]
        exact (Option.some.inj h).symm
    | some seconds =>
      rw [hafter] at h
      obtain ⟨asked, hasked, rfl⟩ := Option.map_eq_some_iff.mp h
      refine ⟨asked, fun longer hasks => ?_, .inr ⟨seconds, rfl, hasked⟩, rfl⟩
      obtain ⟨seconds', hseconds, hlonger⟩ := hasks
      obtain rfl := Option.some.inj hseconds
      exact Nat.le_of_eq (Option.some.inj (hlonger.symm.trans hasked))
  constructor
  case eq => exact ⟨asked, hlongest, hasked, rfl⟩
  case least =>
    have hdoubled : min p.maxDelay (p.baseDelay * 2 ^ k) ≤
        min (p.baseDelay * 2 ^ k + j) p.maxDelay := by omega
    exact Nat.le_trans (Span.ofMillis_le hdoubled) (Nat.le_max_left _ _)
  case asked => exact fun longer hasks => Nat.le_trans (hlongest longer hasks) (Nat.le_max_right _ _)
  case most =>
    have hceiling : Span.ofMillis (min (p.baseDelay * 2 ^ k + j) p.maxDelay) ≤
        Span.ofMillis p.maxDelay := Span.ofMillis_le (Nat.min_le_right _ _)
    rcases hasked with rfl | hasks
    · rw [Nat.max_zero]
      exact .inl hceiling
    · rcases Nat.le_total asked (Span.ofMillis p.maxDelay) with hle | hle
      · exact .inl (Nat.max_le.mpr ⟨hceiling, hle⟩)
      · exact .inr ⟨asked, hasks, Nat.max_le.mpr ⟨Nat.le_trans hceiling hle, Nat.le_refl _⟩⟩

/-! ## Attempts -/

section

variable {σ α : Type} (p : RetryPolicy) (jitter : Nat → Nat) (operation : σ → Except Failure α × σ)

/-- The end of a run that gives an outcome back. -/
def Ending.ofOutcome : Except Failure α → Ending α
  | .ok a => .value a
  | .error f => .failure f

/-- What attempts are made, with which waits between them. -/
structure Schedule (s : σ) (ending : Ending α) (waits : List Span) (s' : σ) : Prop where
  /-- There is one attempt more than there are waits, and not more than the policy allows. -/
  within : waits.length + 1 ≤ max 1 p.maxAttempts
  /-- Every attempt but the last one fails in a way that may pass, and its wait is within its
  bounds. -/
  repeated : ∀ k wait, waits[k]? = some wait → ∃ f, outcomeAt operation s k = .error f ∧
    f.isRetryable = true ∧ p.Waits (jitter (k + 1)) (k + 1) f wait
  /-- The outcome of the last attempt is given back. -/
  returned : ending = .ofOutcome (outcomeAt operation s waits.length)
  /-- Where the last attempt fails in a way that may pass there is no attempt left. -/
  spent : ∀ f, outcomeAt operation s waits.length = .error f → f.isRetryable = true →
    waits.length + 1 = max 1 p.maxAttempts
  /-- The state is that after as many attempts. -/
  state : s' = stateAt operation s (waits.length + 1)

/-- **Every run keeps to the schedule,** for all settings that 64 bits hold and with any jitter, if
no failure that is followed by a wait asks for one that is no length of time.

**Proof sketch.** A run is a course of attempts: each but the last has failed for the moment and is
followed by the wait for it (`course_run`, by induction on the attempts left). The wait for a
failure is the longer of the policy's own, which stays within its bounds for numbers of 64 bits, and
the one asked for (`waits_of_wait?`). A run ends without an outcome just if a failure asks for a
wait that is no length of time (`run_eq_overflow_iff`), which is excluded here. -/
theorem run_schedule (s : σ) (hmax : p.maxDelay ≤ Word.maxUnsigned)
    (hfits : ∀ n, n + 1 < p.maxAttempts →
      (∀ i < n, ∃ f, outcomeAt operation s i = .error f ∧ f.isRetryable = true) →
      ∀ f, outcomeAt operation s n = .error f → ¬ f.AsksTooLong) :
    Schedule p jitter operation s (p.run jitter operation s).1 (p.run jitter operation s).2.1
      (p.run jitter operation s).2.2 := by
  have hcourse := p.course_run jitter operation s
  have hrun := p.run_eq_overflow_iff jitter operation s
  generalize (p.run jitter operation s).1 = ending at hcourse hrun ⊢
  generalize (p.run jitter operation s).2.1 = waits at hcourse ⊢
  have hended := hcourse.ended
  have hwithin := hcourse.within
  constructor
  case within => omega
  case repeated =>
    intro k wait hwait
    obtain ⟨f, hf, hagain, hnext⟩ := hcourse.repeated k wait hwait
    rw [Nat.add_comm] at hnext
    exact ⟨f, hf, hagain, waits_of_wait? hmax hnext⟩
  case returned =>
    cases ending with
    | value a => rw [hended]; rfl
    | failure f => rw [hended.1]; rfl
    | overflow =>
      obtain ⟨n, hn, hbefore, f, hf, hlong⟩ := hrun.mp rfl
      exact absurd hlong (hfits n hn hbefore f hf)
  case spent =>
    intro f hf hagain
    cases ending with
    | value a => exact absurd (hended.symm.trans hf) nofun
    | failure g =>
      obtain rfl := Except.error.inj (hended.1.symm.trans hf)
      rw [hended.2 hagain]
      exact Nat.sub_add_cancel (Nat.le_max_left _ _)
    | overflow =>
      obtain ⟨n, hn, hbefore, f, hf, hlong⟩ := hrun.mp rfl
      exact absurd hlong (hfits n hn hbefore f hf)
  case state => exact hcourse.state

end

/-- An operation that is out of service for its first two attempts, and asks for a wait of 700 ms. -/
def outAtFirst (n : Nat) : Except Failure Nat × Nat :=
  (if n < 2 then .error (.unavailable "Out of service" 0.7) else .ok n, n + 1)

/-- Its third attempt has a value. The first wait is the one that it asks for, since the policy's own
of 500 ms is shorter; the second is the policy's own of 900 ms, which is longer. -/
theorem run_schedule_outAtFirst :
    let p : RetryPolicy := {}
    let run := p.run (fun _ => 100) outAtFirst 0
    p.maxDelay ≤ Word.maxUnsigned ∧ run.1 = .value 2 ∧ run.2 = ([700000000, 900000000], 3) ∧
      Schedule p (fun _ => 100) outAtFirst 0 run.1 run.2.1 run.2.2 := by
  intro p run
  have hmax : p.maxDelay ≤ Word.maxUnsigned := by decide
  have hshort : ¬ (Failure.unavailable "Out of service" 0.7).AsksTooLong := by
    rw [Failure.asksTooLong_unavailable_iff, ← Span.ofSeconds?_eq_none_iff]
    decide +kernel
  refine ⟨hmax, rfl, by decide +kernel, run_schedule p _ outAtFirst 0 hmax ?_⟩
  intro n _ _ f hf
  unfold outcomeAt outAtFirst at hf
  split_ifs at hf
  exact Except.error.inj hf ▸ hshort

end RetryPolicy

end QueryGate
