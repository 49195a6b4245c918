import QueryGate.Chat.Gateway
import QueryGate.Proofs.Outcome
import QueryGate.Proofs.Retry

set_option relaxedAutoImplicit false
set_option autoImplicit false

/-!
# Attempts at a completion

A completion is asked for a limited number of times, whatever comes back. It ends with a reply or
with a failure, unless the service asks for a wait that is no length of time: the number of seconds
in its header is taken as it is written, and there an infinity can be written, or any large number.

## Main definitions

* `QueryGate.Chat.Exchange.IsTransient`, `QueryGate.Chat.Exchange.AsksTooLong` — what comes back and
  is a reason to ask again, and what asks for a wait that is no length of time.
* `QueryGate.Chat.Overtaxes` — an attempt that may be followed by another one gets such an answer.
* `QueryGate.Chat.Brings` — an attempt gets a payload.

## Main results

* `QueryGate.Chat.complete_ends_iff` — how often a completion is asked for, and when it ends with a
  reply or with a failure.
* `QueryGate.Chat.complete_eq_value_iff` — which completions end with a reply, and with which.
-/

namespace QueryGate.Chat

open Outcome RetryPolicy

/-! ## What comes back -/

/-- A reason to ask again: too many requests, trouble at the service, no connection, or no answer in
time. -/
def Exchange.IsTransient : Exchange → Prop
  | response status _ _ => status = 429 ∨ status / 100 = 5
  | unreachable _ => True
  | timedOut _ => True
  | broken _ => False
  | silence => True

/-- A refusal for the moment whose header gives a number of seconds that is no length of time. -/
def Exchange.AsksTooLong : Exchange → Prop
  | response status (some header) _ => (status = 429 ∨ status / 100 = 5) ∧
      ∃ x, Decimal.float? header = some x ∧ Span.IsTooLong x
  | _ => False

/-- A reply that cannot be read is a failure of the service for good. -/
lemma Reply.upstream_of_ofJson {payload : Json} {f : Failure} (h : ofJson payload = .error f) :
    ∃ detail, f = .upstream detail := by
  unfold ofJson at h
  dsimp only at h
  split at h
  · obtain ⟨call, -, hcall⟩ := exists_of_mapM_eq_error (map_eq_error_iff.mp h)
    unfold Call.ofJson at hcall
    dsimp only at hcall
    split at hcall
    · exact absurd hcall nofun
    · exact ⟨_, (Except.error.inj hcall).symm⟩
  · exact absurd h nofun
  · exact ⟨_, (Except.error.inj h).symm⟩

/-- A response that is a reason to ask again says when, in a second if its header does not. -/
lemma refusedBy_of_passing {status : Nat} (h : status = 429 ∨ status / 100 = 5)
    (header : Option String) (body : String) : ∃ detail, refusedBy status header body =
      .unavailable detail ((headerSeconds header).getD 1.0) := by
  unfold refusedBy
  rw [if_pos (by simpa using h)]
  exact ⟨_, rfl⟩

/-- A response that is neither a success nor a reason to ask again is a failure of the service for
good. -/
lemma refusedBy_of_lasting {status : Nat} (h : ¬ (status = 429 ∨ status / 100 = 5))
    (header : Option String) (body : String) :
    ∃ detail, refusedBy status header body = .upstream detail := by
  unfold refusedBy
  rw [if_neg (by simpa using h)]
  exact ⟨_, rfl⟩

/-- A response that is no reason to ask again has a reply, or is a failure of the service for
good. -/
lemma upstream_of_reply {s : Settings} {status : Nat} {header : Option String} {body : String}
    {f : Failure} (h : ¬ (status = 429 ∨ status / 100 = 5))
    (hreply : (Exchange.response status header body).reply s = .error f) :
    ∃ detail, f = .upstream detail := by
  unfold Exchange.reply at hreply
  dsimp only at hreply
  split_ifs at hreply
  · obtain ⟨detail, hdetail⟩ := refusedBy_of_lasting h header body
    exact ⟨detail, (Except.error.inj hreply).symm.trans hdetail⟩
  · cases hread : Json.read? body with
    | none =>
      rw [hread] at hreply
      exact ⟨_, (Except.error.inj hreply).symm⟩
    | some payload =>
      rw [hread] at hreply
      exact Reply.upstream_of_ofJson hreply

/-- A response that is a reason to ask again is a failure that says when. -/
lemma reply_of_passing {s : Settings} {status : Nat} (h : status = 429 ∨ status / 100 = 5)
    (header : Option String) (body : String) :
    ∃ detail, (Exchange.response status header body).reply s =
      .error (.unavailable detail ((headerSeconds header).getD 1.0)) := by
  obtain ⟨detail, hdetail⟩ := refusedBy_of_passing h header body
  have hrefused : status / 100 ≠ 2 := by omega
  unfold Exchange.reply
  dsimp only
  rw [if_pos hrefused, hdetail]
  exact ⟨detail, rfl⟩

/-- A second, the wait that is taken where none is given, is a length of time. -/
lemma not_isTooLong_second : ¬ Span.IsTooLong 1.0 := by
  rw [← Span.ofSeconds?_eq_none_iff]
  decide +kernel

namespace Exchange

variable {s : Settings}

/-- What comes back is a failure that may pass when it is a reason to ask again. -/
lemma reply_transient_iff : ∀ {e : Exchange},
    (∃ f, e.reply s = .error f ∧ f.isRetryable = true) ↔ e.IsTransient
  | response status header body => by
    refine ⟨fun ⟨f, hreply, hagain⟩ => ?_, fun h => ?_⟩
    · by_contra hlasting
      obtain ⟨detail, rfl⟩ := upstream_of_reply hlasting hreply
      exact absurd hagain nofun
    · obtain ⟨detail, hreply⟩ := reply_of_passing (s := s) h header body
      exact ⟨_, hreply, rfl⟩
  | unreachable reason => ⟨fun _ => trivial, fun _ => ⟨_, rfl, rfl⟩⟩
  | timedOut reason => ⟨fun _ => trivial, fun _ => ⟨_, rfl, rfl⟩⟩
  | broken reason => by
    refine ⟨fun ⟨f, hreply, hagain⟩ => ?_, False.elim⟩
    obtain rfl := Except.error.inj hreply
    exact absurd hagain nofun
  | silence => ⟨fun _ => trivial, fun _ => ⟨_, rfl, rfl⟩⟩

/-- What comes back is a failure that asks for too long a wait when its header does. -/
lemma reply_asksTooLong_iff : ∀ {e : Exchange},
    (∃ f, e.reply s = .error f ∧ f.AsksTooLong) ↔ e.AsksTooLong
  | response status header body => by
    by_cases hpassing : status = 429 ∨ status / 100 = 5
    · obtain ⟨detail, hreply⟩ := reply_of_passing (s := s) hpassing header body
      simp only [hreply, Except.error.injEq, exists_eq_left', Failure.asksTooLong_unavailable_iff]
      cases header with
      | none => exact ⟨fun h => absurd h not_isTooLong_second, False.elim⟩
      | some header =>
        cases hread : Decimal.float? header with
        | none => simp [AsksTooLong, headerSeconds, hread, not_isTooLong_second]
        | some x => simp [AsksTooLong, headerSeconds, hread, hpassing]
    · refine ⟨fun ⟨f, hreply, hlong⟩ => ?_, fun h => ?_⟩
      · obtain ⟨detail, rfl⟩ := upstream_of_reply hpassing hreply
        exact absurd hlong.isRetryable nofun
      · cases header with
        | none => exact h.elim
        | some header => exact absurd h.1 hpassing
  | unreachable reason => by
    simp [reply, Failure.asksTooLong_unavailable_iff, not_isTooLong_second, AsksTooLong]
  | timedOut reason => by simp [reply, Failure.AsksTooLong, Failure.retryAfter, AsksTooLong]
  | broken reason => by simp [reply, Failure.AsksTooLong, Failure.retryAfter, AsksTooLong]
  | silence => by simp [reply, Failure.AsksTooLong, Failure.retryAfter, AsksTooLong]

/-- What comes back has a reply when it is a success whose body is a payload with one. -/
lemma reply_eq_ok_iff {e : Exchange} {reply : Reply} : e.reply s = .ok reply ↔
    ∃ status header body payload, e = .response status header body ∧ status / 100 = 2 ∧
      Json.read? body = some payload ∧ Reply.ofJson payload = .ok reply := by
  constructor
  · intro h
    cases e with
    | response status header body =>
      unfold Exchange.reply at h
      dsimp only at h
      split_ifs at h with hstatus
      cases hread : Json.read? body with
      | none => exact absurd (hread ▸ h) nofun
      | some payload =>
        rw [hread] at h
        exact ⟨status, header, body, payload, rfl, not_ne_iff.mp hstatus, hread, h⟩
    | unreachable _ | timedOut _ | broken _ | silence => exact absurd h nofun
  · rintro ⟨status, header, body, payload, rfl, hstatus, hread, h⟩
    unfold Exchange.reply
    dsimp only
    rw [if_neg (not_ne_iff.mpr hstatus), hread]
    exact h

end Exchange

/-! ## One attempt after the other -/

section

variable {s : Settings} {messages : List Message}

/-- Without a key nothing is sent. -/
lemma stateAt_of_keyless (hkey : s.apiKey = none) :
    ∀ (n : Nat) (line : Line), stateAt (completeOnce s messages) line n = line
  | 0, _ => rfl
  | n + 1, line => by
    have hnext : (completeOnce s messages line).2 = line := by rw [completeOnce, hkey]
    rw [stateAt, hnext, stateAt_of_keyless hkey n]

/-- With a key every attempt sends one request and takes the next of what comes back. -/
lemma stateAt_of_key {key : String} (hkey : s.apiKey = some key) :
    ∀ (n : Nat) (line : Line),
      (stateAt (completeOnce s messages) line n).incoming = line.incoming.drop n ∧
        (stateAt (completeOnce s messages) line n).outgoing.length = line.outgoing.length + n
  | 0, _ => ⟨rfl, rfl⟩
  | n + 1, line => by
    have hnext : (completeOnce s messages line).2.incoming = line.incoming.drop 1 ∧
        (completeOnce s messages line).2.outgoing.length = line.outgoing.length + 1 := by
      rw [completeOnce, hkey]
      cases hincoming : line.incoming with
      | nil => simp [Line.exchange, hincoming]
      | cons e rest => simp [Line.exchange, hincoming]
    obtain ⟨hincoming, houtgoing⟩ := stateAt_of_key hkey n (completeOnce s messages line).2
    rw [stateAt, hincoming, houtgoing, hnext.1, hnext.2, List.drop_drop]
    exact ⟨by rw [Nat.add_comm], by omega⟩

/-- With a key an attempt ends as what comes back is read; after the last that comes back there are
only empty responses. -/
lemma outcomeAt_of_key {key : String} (hkey : s.apiKey = some key) (n : Nat) (line : Line) :
    outcomeAt (completeOnce s messages) line n =
      ((line.incoming[n]?).getD (.response 200 none "")).reply s := by
  have hincoming : (stateAt (completeOnce s messages) line n).incoming = line.incoming.drop n :=
    (stateAt_of_key hkey n line).1
  have hnext : line.incoming[n]? = (line.incoming.drop n).head? := by rw [List.head?_drop]
  rw [outcomeAt, hnext, ← hincoming, completeOnce, hkey]
  dsimp only [Line.exchange]
  cases (stateAt (completeOnce s messages) line n).incoming with
  | nil => rfl
  | cons e rest => rfl

/-- Without a key every attempt fails for good. -/
lemma outcomeAt_of_keyless (hkey : s.apiKey = none) (n : Nat) (line : Line) :
    outcomeAt (completeOnce s messages) line n = .error (.config "No chat API key configured") := by
  rw [outcomeAt, completeOnce, hkey]

end

/-! ## Completions -/

/-- An attempt that may be followed by another one gets an answer that asks for too long a wait,
and all before it get answers that are reasons to ask again. -/
def Overtaxes (maxAttempts : Nat) (incoming : List Exchange) : Prop :=
  ∃ before e rest, incoming = before ++ e :: rest ∧ before.length + 1 < maxAttempts ∧
    (∀ b ∈ before, b.IsTransient) ∧ e.AsksTooLong

/-- A payload comes back in a success, and all before it are reasons to ask again whose waits are
lengths of time, so few that an attempt is left. -/
def Brings (maxAttempts : Nat) (incoming : List Exchange) (payload : Json) : Prop :=
  ∃ before status header body rest, incoming = before ++ .response status header body :: rest ∧
    before.length < max 1 maxAttempts ∧ (∀ b ∈ before, b.IsTransient ∧ ¬ b.AsksTooLong) ∧
    status / 100 = 2 ∧ Json.read? body = some payload

/-- What an attempt meets that no empty response is has come back, and what the attempts before it
meet came back before it. -/
lemma exists_attempt_iff {incoming : List Exchange} {P Q : Exchange → Prop} {bound : Nat → Prop}
    (hempty : ¬ P (.response 200 none "")) :
    (∃ n, bound n ∧ (∀ i < n, Q ((incoming[i]?).getD (.response 200 none ""))) ∧
      P ((incoming[n]?).getD (.response 200 none ""))) ↔
    ∃ before e rest, incoming = before ++ e :: rest ∧ bound before.length ∧
      (∀ b ∈ before, Q b) ∧ P e := by
  constructor
  · rintro ⟨n, hn, hbefore, he⟩
    have hlength : n < incoming.length := by
      by_contra hend
      rw [List.getElem?_eq_none (Nat.le_of_not_lt hend)] at he
      exact hempty he
    have htake : (incoming.take n).length = n := List.length_take_of_le (Nat.le_of_lt hlength)
    refine ⟨incoming.take n, incoming[n], incoming.drop (n + 1), ?_, ?_, fun b hb => ?_, ?_⟩
    · rw [← List.drop_eq_getElem_cons hlength, List.take_append_drop]
    · rwa [htake]
    · obtain ⟨i, hi, rfl⟩ := List.getElem_of_mem hb
      rw [htake] at hi
      have hmet := hbefore i hi
      rw [List.getElem?_eq_getElem (Nat.lt_trans hi hlength)] at hmet
      rwa [List.getElem_take]
    · rwa [List.getElem?_eq_getElem hlength] at he
  · rintro ⟨before, e, rest, rfl, hn, hbefore, he⟩
    refine ⟨before.length, hn, fun i hi => ?_, ?_⟩
    · rw [List.getElem?_append_left hi, List.getElem?_eq_getElem hi]
      exact hbefore _ (List.getElem_mem hi)
    · rw [List.getElem?_append_right (Nat.le_refl _), Nat.sub_self]
      exact he

section

variable (s : Settings) (policy : RetryPolicy) (jitter : Nat → Nat) (messages : List Message)
  (line : Line)

/-- A completion is asked for no more often than the policy says, and at least once. -/
lemma length_outgoing_complete_le :
    (complete s policy jitter messages line).2.2.outgoing.length ≤
      line.outgoing.length + max 1 policy.maxAttempts := by
  have h := policy.course_run jitter (completeOnce s messages) line
  have hwithin := h.within
  rw [complete, h.state]
  cases hkey : s.apiKey with
  | none =>
    rw [stateAt_of_keyless hkey]
    exact Nat.le_add_right _ _
  | some key =>
    rw [(stateAt_of_key hkey _ line).2]
    omega

/-- A completion ends in a wait that is no length of time when there is a key and an answer asks for
one while an attempt is left. -/
lemma complete_eq_overflow_iff : (complete s policy jitter messages line).1 = .overflow ↔
    s.apiKey ≠ none ∧ Overtaxes policy.maxAttempts line.incoming := by
  rw [complete, run_eq_overflow_iff]
  cases hkey : s.apiKey with
  | none =>
    refine ⟨?_, fun h => absurd rfl h.1⟩
    rintro ⟨n, -, -, f, hf, hlong⟩
    rw [outcomeAt_of_keyless hkey] at hf
    obtain rfl := Except.error.inj hf
    exact absurd hlong.isRetryable nofun
  | some key =>
    simp only [outcomeAt_of_key hkey, Exchange.reply_transient_iff, Exchange.reply_asksTooLong_iff]
    rw [exists_attempt_iff id]
    exact ⟨fun h => ⟨nofun, h⟩, And.right⟩

/-- A completion ends with a reply when there is a key and a payload with the reply comes back. -/
lemma complete_eq_value_iff {reply : Reply} :
    (complete s policy jitter messages line).1 = .value reply ↔
      s.apiKey ≠ none ∧ ∃ payload, Brings policy.maxAttempts line.incoming payload ∧
        Reply.ofJson payload = .ok reply := by
  rw [complete, run_eq_value_iff]
  cases hkey : s.apiKey with
  | none =>
    refine ⟨?_, fun h => absurd rfl h.1⟩
    rintro ⟨n, -, -, h⟩
    rw [outcomeAt_of_keyless hkey] at h
    exact absurd h nofun
  | some key =>
    have hrepeated : ∀ e : Exchange, (∃ f, e.reply s = .error f ∧ f.isRetryable = true ∧
        ¬ f.AsksTooLong) ↔ e.IsTransient ∧ ¬ e.AsksTooLong := by
      intro e
      rw [← Exchange.reply_transient_iff (s := s), ← Exchange.reply_asksTooLong_iff (s := s)]
      constructor
      · rintro ⟨f, hf, hagain, hshort⟩
        refine ⟨⟨f, hf, hagain⟩, fun ⟨f', hf', hlong⟩ => hshort ?_⟩
        exact Except.error.inj (hf.symm.trans hf') ▸ hlong
      · rintro ⟨⟨f, hf, hagain⟩, hshort⟩
        exact ⟨f, hf, hagain, fun hlong => hshort ⟨f, hf, hlong⟩⟩
    have hempty : ¬ (Exchange.response 200 none "").reply s = .ok reply := nofun
    simp only [outcomeAt_of_key hkey, hrepeated]
    rw [exists_attempt_iff (P := fun e => e.reply s = .ok reply)
      (Q := fun e => e.IsTransient ∧ ¬ e.AsksTooLong) hempty]
    constructor
    · rintro ⟨before, e, rest, hincoming, hlast, hbefore, he⟩
      obtain ⟨status, header, body, payload, rfl, hstatus, hread, hreply⟩ :=
        Exchange.reply_eq_ok_iff.mp he
      exact ⟨nofun, payload, ⟨before, status, header, body, rest, hincoming, hlast, hbefore,
        hstatus, hread⟩, hreply⟩
    · rintro ⟨-, payload, ⟨before, status, header, body, rest, hincoming, hlast, hbefore, hstatus,
        hread⟩, hreply⟩
      exact ⟨before, _, rest, hincoming, hlast, hbefore, Exchange.reply_eq_ok_iff.mpr
        ⟨status, header, body, payload, rfl, hstatus, hread, hreply⟩⟩

/-- **A completion is asked for no more often than the policy says, and it ends with a reply or
with a failure exactly when no answer asks for a wait that is no length of time** while an attempt
is left, or when there is no key.

**Proof sketch.** A completion is an operation tried again, whose outcome at an attempt is read off
the answer that the network has for it. A run makes at most as many attempts as the policy says, and
sends one request in each (`length_outgoing_complete_le`). It ends without an outcome just if an
answer asks for a wait that is no length of time, after answers that may pass and while an attempt
is left (`complete_eq_overflow_iff`, from `RetryPolicy.run_eq_overflow_iff`). -/
theorem complete_ends_iff :
    (complete s policy jitter messages line).2.2.outgoing.length ≤
        line.outgoing.length + max 1 policy.maxAttempts ∧
      (((∃ reply, (complete s policy jitter messages line).1 = .value reply) ∨
          ∃ f, (complete s policy jitter messages line).1 = .failure f) ↔
        s.apiKey = none ∨ ¬ Overtaxes policy.maxAttempts line.incoming) := by
  refine ⟨length_outgoing_complete_le s policy jitter messages line, ?_⟩
  have hoverflow := complete_eq_overflow_iff s policy jitter messages line
  rw [← not_ne_iff, ← not_and_or, ← hoverflow]
  cases (complete s policy jitter messages line).1 <;> simp

/-- A conversation with a service that is out of order and says to ask again in an infinite time. -/
def forever : Line := { incoming := [.response 503 (some "inf") "", .response 200 none ""] }

/-- Such a conversation ends with neither a reply nor a failure, with the usual policy. -/
theorem not_complete_ends_forever :
    (∀ reply, (complete { apiKey := some "key" } {} (fun _ => 0) [⟨"user", "hello"⟩] forever).1 ≠
        .value reply) ∧
      ∀ f, (complete { apiKey := some "key" } {} (fun _ => 0) [⟨"user", "hello"⟩] forever).1 ≠
        .failure f := by
  have hoverflow :
      (complete { apiKey := some "key" } {} (fun _ => 0) [⟨"user", "hello"⟩] forever).1 =
        .overflow := rfl
  rw [hoverflow]
  exact ⟨nofun, nofun⟩

end

end QueryGate.Chat
