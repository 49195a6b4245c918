import QueryGate.Proofs.Breaker.Step
import QueryGate.Proofs.Service.Run

set_option relaxedAutoImplicit false
set_option autoImplicit false

/-!
# What the breaker counts and what callers are told

A fault of the engine is read twice: once by the breaker, which counts it or not, and once for the
caller, who is told a failure with a code. The two readings agree, for every text that the engine
may have written: the breaker counts just the faults of which the caller is told that it may try
again. So the books of the breaker can be kept from the answers alone, whatever calls run side by
side and in whatever order they end.

## Main definitions

* `QueryGate.Dispatch.Event` — what may happen to the statements that are on their way to the
  engine.
* `QueryGate.Dispatch.traffic` — the same as the breaker sees it.
* `QueryGate.Dispatch.answer` — what a caller is told.
* `QueryGate.Dispatch.heard` — how a call has ended as far as its caller can tell.
* `QueryGate.Dispatch.CountedAsTold` — a statement of the service that is counted as its caller is
  told.

## Main results

* `QueryGate.EngineFault.trips_eq_isRetryable` — the breaker counts what may be tried again.
* `QueryGate.Dispatch.run_heard` — the breaker's books can be kept from the answers.
* `QueryGate.Dispatch.ends_runStatement` — a statement of the service is a call that starts and the
  reply that follows.
* `QueryGate.Dispatch.counts_what_may_be_tried_again` — every answer of the engine is counted as
  its caller is told.
-/

namespace QueryGate

/-! ## Faults -/

namespace Diagnosis

/-- The code of which a caller is told. -/
def code : Diagnosis → Code
  | columnNotFound .. | tableNotFound .. => .notFound
  | invalidAggregation | typeMismatch => .validation
  | timeout => .timeout
  | poolExhausted => .unavailable
  | connection | execution => .execution

/-- A diagnosis that blames the request has a code that is of no use to try again. -/
lemma isRetryable_code (d : Diagnosis) : d.code.isRetryable = d.countsAsFailure := by
  cases d <;> rfl

/-- The codes of the engine. -/
lemma code_cases (d : Diagnosis) :
    d.countsAsFailure = true ∧ d.code ∈ [Code.execution, Code.timeout, Code.unavailable] ∨
      d.countsAsFailure = false ∧ d.code ∈ [Code.notFound, Code.validation] := by
  cases d <;> simp [countsAsFailure, isRequestDefect, code]

end Diagnosis

namespace EngineFault

/-- The engine's own message tells of no waiting for a connection. -/
lemma diagnoseMessage_ne_poolExhausted (message : String) :
    diagnoseMessage message ≠ .poolExhausted := by
  unfold diagnoseMessage
  dsimp only
  split
  · exact nofun
  · exact nofun
  · split_ifs <;> exact nofun

/-- The caller is told the code of the diagnosis. -/
lemma code_failure (f : EngineFault) : f.failure.code = f.diagnose.code := by
  cases f with
  | timeout | poolExhausted | connection => rfl
  | engine message =>
    have hpool := diagnoseMessage_ne_poolExhausted message
    cases hdiagnosis : diagnoseMessage message with
    | poolExhausted => exact absurd hdiagnosis hpool
    | _ =>
      simp only [failure, diagnose, hdiagnosis]
      rfl

/-- **The breaker counts the faults of which the caller is told that it may try again.** -/
theorem trips_eq_isRetryable (f : EngineFault) : f.trips = f.failure.isRetryable := by
  rw [trips, Failure.isRetryable, code_failure, Diagnosis.isRetryable_code]

/-- What may be tried again are the codes of an engine that is not well; the other codes of the
engine blame the request. -/
lemma code_failure_cases (f : EngineFault) :
    (f.trips = true ↔ f.failure.code ∈ [Code.execution, Code.timeout, Code.unavailable]) ∧
      (f.trips = false ↔ f.failure.code ∈ [Code.notFound, Code.validation]) := by
  rw [trips, code_failure]
  rcases f.diagnose.code_cases with ⟨hcounts, hcode⟩ | ⟨hcounts, hcode⟩ <;>
    simp only [List.mem_cons, List.not_mem_nil, or_false] at hcode ⊢
  · rcases hcode with hcode | hcode | hcode <;> simp [hcounts, hcode]
  · rcases hcode with hcode | hcode <;> simp [hcounts, hcode]

end EngineFault

/-! ## Statements on their way -/

namespace Dispatch

open Service Traffic

/-- What may happen to the statements that are on their way to the engine. -/
inductive Event
  /-- A statement is sent, and runs if the breaker lets it through. -/
  | start (id : String)
  /-- The engine replies to a running statement. -/
  | reply (id : String) (reply : Except EngineFault RowSet)
  /-- The caller gives a running statement up. -/
  | drop (id : String)
  /-- Time passes. -/
  | pass (time : Span)

/-- How a reply ends its call, as the breaker reads it. -/
def callEnd : Except EngineFault RowSet → CallEnd
  | .ok _ => .answered
  | .error fault => if fault.trips then .failed else .defective

/-- What happens, as the breaker sees it. -/
def traffic : Event → Traffic.Event
  | .start id => .start id
  | .reply id reply => .finish id (callEnd reply)
  | .drop id => .cancel id
  | .pass time => .pass time

/-- What the caller of a statement is told: that the breaker refuses it, or the reply with its fault
as a failure. -/
def answer (s : BreakerSettings) (t : Traffic) : Event → Option (Except Failure RowSet)
  | .start id =>
    match (t.step s (.start id)).1 with
    | .refused after => some (.error (refusedByBreaker after))
    | _ => none
  | .reply id reply =>
    match (t.step s (.finish id (callEnd reply))).1 with
    | .ended _ => some (reply.mapError EngineFault.failure)
    | _ => none
  | _ => none

/-- How a call has ended as far as its caller can tell: with a failure that may be tried again, with
one of no use to try again, or with rows. -/
def heard : Except Failure RowSet → CallEnd
  | .ok _ => .answered
  | .error failure => if failure.isRetryable then .failed else .defective

/-- What happens, with the answers in place of the replies. -/
def heardTraffic : Event → Traffic.Event
  | .reply id reply => .finish id (heard (reply.mapError EngineFault.failure))
  | e => traffic e

variable {s : BreakerSettings} {t : Traffic}

/-- The caller hears what the breaker reads. -/
lemma callEnd_eq_heard (reply : Except EngineFault RowSet) :
    callEnd reply = heard (reply.mapError EngineFault.failure) := by
  cases reply with
  | ok rows => rfl
  | error fault =>
    simp only [callEnd, Except.mapError, heard, fault.trips_eq_isRetryable]

/-- An event is the same when answers stand for replies. -/
lemma traffic_eq_heardTraffic (e : Event) : traffic e = heardTraffic e := by
  cases e with
  | reply id reply => rw [traffic, heardTraffic, callEnd_eq_heard]
  | _ => rfl

/-- **The breaker's books can be kept from the answers.** A breaker that is told of each call what
its caller is told goes through the same states as one that reads the faults itself. -/
theorem run_heard (s : BreakerSettings) (t : Traffic) (events : List Event) :
    run s t (events.map traffic) = run s t (events.map heardTraffic) :=
  congrArg (run s t) (List.map_congr_left fun e _ => traffic_eq_heardTraffic e)

/-- A reply to a statement that does not run is told to nobody and changes nothing. -/
lemma reply_of_lookup_none {id : String} (h : t.running.lookup id = none)
    (reply : Except EngineFault RowSet) :
    answer s t (.reply id reply) = none ∧ (t.step s (traffic (.reply id reply))).2 = t := by
  simp [answer, traffic, step, h]

/-- A reply to a running statement is told to its caller, and the breaker counts a failure just if
the caller may try again. -/
lemma reply_of_lookup_some {id : String} {trial : Bool} (h : t.running.lookup id = some trial)
    (reply : Except EngineFault RowSet) :
    answer s t (.reply id reply) = some (reply.mapError EngineFault.failure) ∧
      (t.step s (traffic (.reply id reply))).2.breaker =
        match reply.mapError EngineFault.failure with
        | .ok _ => t.breaker.succeed trial
        | .error failure =>
          if failure.isRetryable then t.breaker.fail s t.now trial else t.breaker.succeed trial := by
  refine ⟨by simp [answer, step, h], ?_⟩
  cases reply with
  | ok rows => simp [traffic, callEnd, step, h, CallEnd.isFailure, Breaker.settle, Except.mapError]
  | error fault =>
    have hfailure : (callEnd (.error fault)).isFailure = fault.failure.isRetryable := by
      rw [← fault.trips_eq_isRetryable, callEnd]
      cases fault.trips <;> rfl
    simp [traffic, step, h, hfailure, Breaker.settle, Except.mapError]

/-! ## Statements of the service -/

/-- What the engine's reply is to the statement that waits for it. -/
def replyEvent (id : String) : EngineReply → Event
  | .rows rows => .reply id (.ok rows)
  | .fault fault => .reply id (.error fault)
  | .silence => .drop id

/-- How a step ends that waits for an answer. -/
def ending : Option (Except Failure RowSet) → Except Halt RowSet
  | some (.ok rows) => .ok rows
  | some (.error failure) => .error (.failed failure)
  | none => .error .abandoned

/-- **A statement of the service is a call that starts and the reply that follows.** The service
answers as the caller of that call is told, and leaves the breaker as that call does. -/
theorem ends_runStatement (svc : Service) (d : Dataset) (st : Statement) (state : State)
    (id : String) :
    let t : Traffic := { breaker := state.breaker, now := state.now }
    let next := (t.step svc.breaker (traffic (.start id))).2
    let reply := replyEvent id state.reply
    ((svc.runStatement d st).ends state).1 =
        ending ((answer svc.breaker t (.start id)).or (answer svc.breaker next reply)) ∧
      ((svc.runStatement d st).ends state).2.breaker =
        (next.step svc.breaker (traffic reply)).2.breaker := by
  intro t next reply
  rw [runStatement, Session.ends_bind_ok (Session.ends_get state)]
  cases harrive : state.breaker.arrive svc.breaker state.now with
  | refused after =>
    have hnext : next = t := by simp [next, traffic, step, t, harrive]
    have hanswer : answer svc.breaker t (.start id) = some (.error (refusedByBreaker after)) := by
      simp [answer, step, t, harrive]
    refine ⟨by rw [hanswer]; rfl, ?_⟩
    rw [hnext]
    cases hreply : state.reply <;> simp [reply, hreply, replyEvent, traffic, step, t]
  | admitted trial b =>
    have hnext : next = { breaker := b, now := state.now, running := [(id, trial)] } := by
      simp [next, traffic, step, t, harrive, giveUp]
    have hanswer : answer svc.breaker t (.start id) = none := by
      simp [answer, step, t, harrive]
    have hruns : next.running.lookup id = some trial := by simp [hnext]
    rw [hanswer, Option.none_or]
    cases hreply : state.reply with
    | rows rows =>
      obtain ⟨htold, hbreaker⟩ := reply_of_lookup_some (s := svc.breaker) hruns (.ok rows)
      simp only [reply, hreply, replyEvent]
      rw [htold, hbreaker, hnext]
      exact ⟨rfl, rfl⟩
    | fault fault =>
      obtain ⟨htold, hbreaker⟩ := reply_of_lookup_some (s := svc.breaker) hruns (.error fault)
      simp only [reply, hreply, replyEvent]
      rw [htold, hbreaker, hnext]
      refine ⟨rfl, ?_⟩
      change b.settle svc.breaker state.now trial fault.trips = _
      rw [fault.trips_eq_isRetryable]
      rfl
    | silence =>
      simp only [reply, hreply, replyEvent, hnext]
      refine ⟨rfl, ?_⟩
      simp [traffic, step, giveUp]
      rfl

/-- A statement of the service is counted as its caller is told: as a success when there are rows,
and when there is a failure, by whether it may be tried again. A statement that the breaker refuses
is not counted. -/
def CountedAsTold (svc : Service) (before : State) : Except Halt RowSet × State → Prop
  | (.ok _, after) =>
    ∃ trial b, before.breaker.arrive svc.breaker before.now = .admitted trial b ∧
      after.breaker = b.succeed trial
  | (.error (.failed failure), after) =>
    (∃ wait, before.breaker.arrive svc.breaker before.now = .refused wait ∧
        failure = refusedByBreaker wait ∧ after.breaker = before.breaker) ∨
      ∃ trial b, before.breaker.arrive svc.breaker before.now = .admitted trial b ∧
        after.breaker =
          if failure.isRetryable then b.fail svc.breaker before.now trial else b.succeed trial
  | (.error .abandoned, after) =>
    ∃ trial b, before.breaker.arrive svc.breaker before.now = .admitted trial b ∧
      after.breaker = b.cancel svc.breaker before.now trial
  | (.error .crashed, _) => False

/-- Every statement of the service is counted as its caller is told. -/
lemma countedAsTold_runStatement (svc : Service) (d : Dataset) (st : Statement) (state : State) :
    CountedAsTold svc state ((svc.runStatement d st).ends state) := by
  rw [runStatement, Session.ends_bind_ok (Session.ends_get state)]
  cases harrive : state.breaker.arrive svc.breaker state.now with
  | refused after => exact .inl ⟨after, harrive, rfl, rfl⟩
  | admitted trial b =>
    cases hreply : state.reply with
    | rows rows => exact ⟨trial, b, harrive, rfl⟩
    | fault fault =>
      refine .inr ⟨trial, b, harrive, ?_⟩
      rw [← fault.trips_eq_isRetryable]
      rfl
    | silence => exact ⟨trial, b, harrive, rfl⟩

/-! ## The books -/

/-- **Every answer of the engine is counted as its caller is told.** For every fault, whatever its
text, the breaker counts a failure just if the caller is told a failure that may be tried again,
whose code is then of an execution, a timeout or an engine that is not available; every other fault
is told as something not found or not valid. So is every statement of the service counted, from any
state: it is a call that starts and the reply of the engine that follows, with the answer and the
breaker of that call. After any course of calls that run side by side, a reply to one of them is
told to its caller, and the breaker takes a failure if that answer may be tried again and a success
otherwise; a reply that nobody waits for changes nothing. A breaker that hears nothing but the
answers goes through the same states.

**Proof sketch.** A fault is told with the code of its diagnosis, and the codes of diagnoses that
count are those that may be tried again. The message itself never diagnoses a wait for a connection,
the one diagnosis that is told in two ways. What one reply does follows from this for the traffic
that it meets (`reply_of_lookup_some`, `reply_of_lookup_none`), and what a course of events does by
replacing each reply by its answer (`run_heard`). A statement of the service meets the traffic of
one call alone, so `ends_runStatement` reads its two events there. -/
theorem counts_what_may_be_tried_again :
    (∀ fault : EngineFault,
      (fault.trips = true ↔ fault.failure.isRetryable = true) ∧
        (fault.trips = true ↔
          fault.failure.code ∈ [Code.execution, Code.timeout, Code.unavailable]) ∧
        (fault.trips = false ↔ fault.failure.code ∈ [Code.notFound, Code.validation])) ∧
      (∀ (svc : Service) (d : Dataset) (st : Statement) (state : State),
        CountedAsTold svc state ((svc.runStatement d st).ends state) ∧
          ∀ id : String,
            let t : Traffic := { breaker := state.breaker, now := state.now }
            let next := (t.step svc.breaker (traffic (.start id))).2
            let reply := replyEvent id state.reply
            ((svc.runStatement d st).ends state).1 =
                ending ((answer svc.breaker t (.start id)).or (answer svc.breaker next reply)) ∧
              ((svc.runStatement d st).ends state).2.breaker =
                (next.step svc.breaker (traffic reply)).2.breaker) ∧
      ∀ (s : BreakerSettings) (events : List Event),
        run s {} (events.map traffic) = run s {} (events.map heardTraffic) ∧
          ∀ (id : String) (reply : Except EngineFault RowSet),
            let t := run s {} (events.map traffic)
            let u := run s {} ((events ++ [Event.reply id reply]).map traffic)
            match t.running.lookup id with
            | none => answer s t (.reply id reply) = none ∧ u = t
            | some trial =>
              answer s t (.reply id reply) = some (reply.mapError EngineFault.failure) ∧
                u.breaker =
                  match reply.mapError EngineFault.failure with
                  | .ok _ => t.breaker.succeed trial
                  | .error failure =>
                    if failure.isRetryable then t.breaker.fail s t.now trial
                    else t.breaker.succeed trial := by
  refine ⟨fun fault => ⟨?_, fault.code_failure_cases⟩, fun svc d st state =>
    ⟨countedAsTold_runStatement svc d st state, ends_runStatement svc d st state⟩,
    fun s events => ⟨run_heard s {} events, ?_⟩⟩
  · rw [fault.trips_eq_isRetryable]
  · intro id reply t u
    have hu : u = (t.step s (traffic (.reply id reply))).2 := by
      simp only [u, t, List.map_append, List.map_cons, List.map_nil, run_concat]
    cases hid : t.running.lookup id with
    | none => exact hu ▸ reply_of_lookup_none hid reply
    | some trial => exact hu ▸ reply_of_lookup_some hid reply

end Dispatch

end QueryGate
