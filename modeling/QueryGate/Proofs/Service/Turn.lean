import QueryGate.Proofs.Chat.Attempts
import QueryGate.Proofs.Service.Halting
import QueryGate.Proofs.Sql.Reading.Texts

set_option relaxedAutoImplicit false
set_option autoImplicit false

/-!
# Turns of a conversation

A reply that asks for calls of tools is answered with one entry for each call, in the order asked
for. A call meets the state that the calls before it have left, so a call that fails is told apart
and takes nothing away from the others.

## Main definitions

* `QueryGate.Chat.callsIn`, `QueryGate.Chat.toolIn`, `QueryGate.Chat.Call.Written` — calls as they
  are written in a reply.
* `QueryGate.Service.afterCalls` — the state that calls leave, one after the other.
* `QueryGate.Service.State.afterExchange` — the state that an exchange with the chat service leaves.
* `QueryGate.Service.Reports`, `QueryGate.Service.ReportsAll` — the entry of a call, and of each of
  several calls.

## Main results

* `QueryGate.Service.ends_runCalls` — calls are reported one by one, unless one is given up.
* `QueryGate.Service.chatTurn_reports_calls` — a turn of a conversation reports every call that the
  reply asks for.
-/

namespace QueryGate

open Outcome

/-! ## Replies -/

namespace Chat

/-- The calls of tools in a payload, as they are written. -/
def callsIn (payload : Json) : Json :=
  (((payload.get "choices").item 0).get "message").get "tool_calls"

/-- The tool that a call names, as it is written. -/
def toolIn (j : Json) : Option String := ((j.get "function").get "name").text?

/-- A call is written with its name, which may be missing, the tool, and the arguments, which are an
empty object where there is no text of them. -/
structure Call.Written (j : Json) (call : Call) : Prop where
  /-- The name that the model gives the call. -/
  id : call.id = ((j.get "id").text?).getD ""
  /-- The tool. -/
  name : toolIn j = some call.name
  /-- The arguments. -/
  arguments : call.arguments = (((j.get "function").get "arguments").text?).getD "\x7b\x7d"

/-- A call is read as it is written. -/
lemma Call.ofJson_eq_ok_iff {j : Json} {call : Call} : ofJson j = .ok call ↔ Written j call := by
  unfold ofJson
  dsimp only
  constructor
  · intro h
    split at h
    · next name hname =>
      obtain rfl := Except.ok.inj h
      exact ⟨rfl, hname, rfl⟩
    · exact absurd h nofun
  · intro h
    have hname : ((j.get "function").get "name").text? = some call.name := h.name
    rw [hname]
    dsimp only
    rw [← h.id, ← h.arguments]

/-- A reply whose calls all name a tool is read as these calls. -/
lemma Reply.ofJson_of_calls {payload : Json} {items : List Json}
    (hitems : callsIn payload = .arr items) (hsome : items ≠ [])
    (hnamed : ∀ j ∈ items, ∃ name, toolIn j = some name) :
    ∃ calls, ofJson payload = .ok (.calls calls) ∧ List.Forall₂ Call.Written items calls := by
  obtain ⟨calls, hcalls⟩ : ∃ calls, items.mapM Call.ofJson = .ok calls := by
    refine mapM_isOk_iff.mpr fun j hj => ?_
    obtain ⟨name, hname⟩ := hnamed j hj
    exact ⟨⟨_, name, _⟩, Call.ofJson_eq_ok_iff.mpr ⟨rfl, hname, rfl⟩⟩
  have hwritten : List.Forall₂ Call.Written items calls :=
    (mapM_eq_ok_iff.mp hcalls).imp fun _ _ => Call.ofJson_eq_ok_iff.mp
  refine ⟨calls, ?_, hwritten⟩
  obtain ⟨first, rest, rfl⟩ := List.exists_cons_of_ne_nil hsome
  unfold callsIn at hitems
  unfold ofJson
  dsimp only
  rw [hitems]
  exact map_eq_ok_iff.mpr ⟨calls, hcalls, rfl⟩

end Chat

namespace Service

open Session

variable {svc : Service} {s : State}

/-! ## Calls -/

/-- The state that a call leaves: that of its tool, if it stands for one. -/
def afterCall (svc : Service) (s : State) (call : Chat.Call) : State :=
  match ToolCall.decode call.name call.arguments with
  | .ok tool => ((svc.runTool tool).ends s).2
  | .error _ => s

/-- The state that calls leave, one after the other. -/
def afterCalls (svc : Service) (s : State) (calls : List Chat.Call) : State :=
  calls.foldl svc.afterCall s

/-- The entry of a call: its names and one member more. -/
def entry (call : Chat.Call) (ending : String × Json) : Json :=
  .obj [("id", .str call.id), ("name", .str call.name), ending]

/-- A call that meets a state is reported with its failure or with its result. -/
inductive Reports (svc : Service) (s : State) (call : Chat.Call) : Json → Prop
  /-- It stands for no tool. -/
  | undecoded {refusal : Refusal} (h : ToolCall.decode call.name call.arguments = .error refusal) :
    Reports svc s call (entry call ("error", refusal.failure.response))
  /-- Its tool fails. -/
  | failed {tool : ToolCall} {failure : Failure}
    (hdecode : ToolCall.decode call.name call.arguments = .ok tool)
    (h : ((svc.runTool tool).ends s).1 = .error (.failed failure)) :
    Reports svc s call (entry call ("error", failure.response))
  /-- Its tool has a result. -/
  | answered {tool : ToolCall} {result : Json}
    (hdecode : ToolCall.decode call.name call.arguments = .ok tool)
    (h : ((svc.runTool tool).ends s).1 = .ok result) :
    Reports svc s call (entry call ("result", result))

/-- A call that meets a state is given up: its tool comes to no end. -/
def GivesUp (svc : Service) (s : State) (call : Chat.Call) : Prop :=
  ∃ tool, ToolCall.decode call.name call.arguments = .ok tool ∧
    ((svc.runTool tool).ends s).1 = .error .abandoned

/-- **A call is reported and leaves the state that its tool leaves, unless it is given up in front
of a silent engine.** -/
lemma ends_runCall (hroom : 1 ≤ svc.limits.maxRows) (s : State) (call : Chat.Call) :
    (∃ e, (svc.runCall call).ends s = (.ok e, svc.afterCall s call) ∧ svc.Reports s call e) ∨
      ((svc.runCall call).ends s).1 = .error .abandoned ∧ .silence ∈ s.replies ∧
        svc.GivesUp s call := by
  unfold runCall callTool afterCall
  rw [ends_bind, ends_attempt]
  cases hdecode : ToolCall.decode call.name call.arguments with
  | error refusal =>
    rw [Except.mapError.eq_1, ends_bind_error (ends_ofExcept_error _ s)]
    exact Or.inl ⟨_, rfl, .undecoded hdecode⟩
  | ok tool =>
    rw [Except.mapError.eq_2, ends_bind_ok (ends_ofExcept_ok tool s)]
    dsimp only
    -- A failure is caught and reported; only a call that is given up is not.
    have hsettled := settles_runTool hroom tool s
    rcases hends : (svc.runTool tool).ends s with ⟨out, t⟩
    rw [hends] at hsettled
    have hout : ((svc.runTool tool).ends s).1 = out := congrArg Prod.fst hends
    cases hsettled with
    | value => exact Or.inl ⟨_, rfl, .answered hdecode hout⟩
    | failed => exact Or.inl ⟨_, rfl, .failed hdecode hout⟩
    | abandoned _ hsilent => exact Or.inr ⟨rfl, hsilent, tool, hdecode, hout⟩

/-- A call uses up some of the replies of the engine. -/
lemma replies_afterCall (hroom : 1 ≤ svc.limits.maxRows) (s : State) (call : Chat.Call) :
    (svc.afterCall s call).replies <:+ s.replies := by
  unfold afterCall
  cases ToolCall.decode call.name call.arguments with
  | error refusal => exact List.suffix_rfl
  | ok tool => exact (settles_runTool hroom tool s).used

/-! ## Calls one after the other -/

/-- There is one entry for each call, in their order, and each call has met the state that the calls
before it have left. -/
structure ReportsAll (svc : Service) (s : State) (calls : List Chat.Call) (entries : List Json) :
    Prop where
  /-- There are as many entries as calls. -/
  length : entries.length = calls.length
  /-- Each call is reported where it stands. -/
  each : ∀ i call, calls[i]? = some call →
    ∃ e, entries[i]? = some e ∧ svc.Reports (svc.afterCalls s (calls.take i)) call e

/-- Some call meets the state that the calls before it have left and is given up there. -/
def GivesUpAmong (svc : Service) (s : State) (calls : List Chat.Call) : Prop :=
  ∃ i call, calls[i]? = some call ∧ svc.GivesUp (svc.afterCalls s (calls.take i)) call

/-- Where there are no calls there are no entries. -/
lemma ReportsAll.nil : svc.ReportsAll s [] [] := ⟨rfl, fun _ _ h => absurd h (by simp)⟩

/-- The entry of a first call comes first, and the other calls meet the state that it has left. -/
lemma ReportsAll.cons {call : Chat.Call} {calls : List Chat.Call} {e : Json} {entries : List Json}
    (h : svc.Reports s call e) (hrest : svc.ReportsAll (svc.afterCall s call) calls entries) :
    svc.ReportsAll s (call :: calls) (e :: entries) where
  length := congrArg Nat.succ hrest.length
  each := by
    rintro (_ | i) c hc
    · obtain rfl := Option.some.inj hc
      exact ⟨e, rfl, h⟩
    · exact hrest.each i c hc

/-- **Calls are reported one by one, each where the calls before it have left it, unless one of them
is given up in front of a silent engine.** -/
theorem ends_runCalls (hroom : 1 ≤ svc.limits.maxRows) : ∀ (calls : List Chat.Call) (s : State),
    (∃ entries, (calls.mapM svc.runCall).ends s = (.ok entries, svc.afterCalls s calls) ∧
        svc.ReportsAll s calls entries) ∨
      ((calls.mapM svc.runCall).ends s).1 = .error .abandoned ∧ .silence ∈ s.replies ∧
        svc.GivesUpAmong s calls
  | [], s => Or.inl ⟨[], rfl, .nil⟩
  | call :: calls, s => by
    rw [List.mapM_cons]
    rcases ends_runCall hroom s call with ⟨e, hends, he⟩ | ⟨hends, hsilent, hgives⟩
    · rw [ends_bind_ok hends]
      rcases ends_runCalls hroom calls (svc.afterCall s call) with
        ⟨entries, hrest, hentries⟩ | ⟨hrest, hsilent, i, c, hc, hgives⟩
      · exact Or.inl ⟨e :: entries, ends_bind_ok hrest _, .cons he hentries⟩
      · -- What the first call has left of the replies was there before it.
        refine Or.inr ⟨?_, (replies_afterCall hroom s call).subset hsilent, i + 1, c, hc, hgives⟩
        rw [ends_bind_error (Prod.ext hrest rfl)]
    · refine Or.inr ⟨?_, hsilent, 0, call, rfl, hgives⟩
      rw [ends_bind_error (Prod.ext hends rfl)]

/-! ## Turns -/

/-- The state after an exchange with the chat service: the waits between attempts have passed, and
the gateway has seen what came back. -/
def State.afterExchange (s : State) (exchange : List Span × Chat.Line) : State :=
  { s with line := exchange.2, now := exchange.1.foldl (· + ·) s.now }

/-- A completion that gives a reply takes its time and changes nothing but what the chat gateway
sees. -/
lemma ends_completion_of_value {chat : ChatSetup} {messages : List Chat.Message}
    {reply : Chat.Reply}
    (h : (Chat.complete chat.settings chat.policy svc.jitter messages s.line).1 = .value reply) :
    (svc.completion chat messages).ends s = (.ok reply, s.afterExchange
      (Chat.complete chat.settings chat.policy svc.jitter messages s.line).2) := by
  rw [completion, ends_bind_ok (ends_get s)]
  rcases hends : Chat.complete chat.settings chat.policy svc.jitter messages s.line with
    ⟨ending, waits, line⟩
  rw [hends] at h
  obtain rfl : ending = .value reply := h
  rfl

/-- **A turn of a conversation reports every call that the reply asks for.** Where a row is allowed
and a reply comes back whose calls, at least one, all name a tool, there is one entry for each call
in the order asked for, with its names and with what comes of it after the calls before it; unless a
call is given up in front of a silent engine. The first call meets the state that the exchange with
the chat service leaves, in which the waits between its attempts have passed.

**Proof sketch.** The reply is read as its calls since each of them names a tool
(`Chat.Reply.ofJson_of_calls`), and the completion ends with it. A call ends with a value or with a
failure that is told in its entry, or is given up in front of a silent engine. Going through the
calls one by one, each is run where those before it have left the state (`ends_runCalls`, by
induction on the calls). -/
theorem chatTurn_reports_calls {chat : ChatSetup} {payload : Json} {items : List Json}
    (hroom : 1 ≤ svc.limits.maxRows) (hchat : svc.chat = some chat)
    (hkey : chat.settings.apiKey ≠ none)
    (hbrings : Chat.Brings chat.policy.maxAttempts s.line.incoming payload)
    (hitems : Chat.callsIn payload = .arr items) (hsome : items ≠ [])
    (hnamed : ∀ j ∈ items, ∃ name, Chat.toolIn j = some name)
    (messages : List Chat.Message) :
    let asked := s.afterExchange
      (Chat.complete chat.settings chat.policy svc.jitter messages s.line).2
    ∃ calls, List.Forall₂ Chat.Call.Written items calls ∧
      ((∃ entries, (svc.chatTurn messages).ends s =
            (.ok (.obj [("tool_results", .arr entries)]), svc.afterCalls asked calls) ∧
          svc.ReportsAll asked calls entries) ∨
        ((svc.chatTurn messages).ends s).1 = .error .abandoned ∧ .silence ∈ s.replies ∧
          svc.GivesUpAmong asked calls) := by
  intro asked
  obtain ⟨calls, hcalls, hwritten⟩ := Chat.Reply.ofJson_of_calls hitems hsome hnamed
  have hvalue : (Chat.complete chat.settings chat.policy svc.jitter messages s.line).1 =
      .value (.calls calls) :=
    (Chat.complete_eq_value_iff _ _ _ _ _).mpr ⟨hkey, payload, hbrings, hcalls⟩
  have hcompletion : (svc.completion chat messages).ends s = (.ok (.calls calls), asked) :=
    ends_completion_of_value hvalue
  refine ⟨calls, hwritten, ?_⟩
  unfold chatTurn
  rw [hchat]
  dsimp only
  rw [ends_bind_ok hcompletion]
  dsimp only
  rcases ends_runCalls hroom calls asked with
    ⟨entries, hends, hentries⟩ | ⟨hends, hsilent, hgives⟩
  · exact Or.inl ⟨entries, ends_bind_ok hends _, hentries⟩
  · refine Or.inr ⟨?_, hsilent, hgives⟩
    rw [ends_bind_error (Prod.ext hends rfl)]

/-- A service without datasets that may ask a model. -/
def askingService : Service where
  catalog := ⟨[]⟩
  reader := Sql.grammatical
  taken := Sql.takesBuilt_grammatical
  chat := some { settings := { apiKey := some "key" } }

/-- A reply that asks for a call of no tool, and for one without a name of its own. -/
def twoCalls : Json := .obj [("choices", .arr [.obj [("message", .obj [("tool_calls", .arr [
  .obj [("id", .str "first"), ("function", .obj [("name", .str "drop_tables")])],
  .obj [("function", .obj [("name", .str "list_files")])]])])]])]

/-- Both calls are reported, though the first stands for no tool and the reply comes only when it is
asked for again. -/
theorem chatTurn_reports_two_calls :
    let s : State :=
      { line := { incoming := [.response 503 none "", .response 200 none twoCalls.render] } }
    ∃ entries, ((askingService.chatTurn [⟨"user", "hello"⟩]).ends s).1 =
      .ok (.obj [("tool_results", .arr entries)]) ∧ entries.length = 2 := by
  intro s
  obtain ⟨payload, hread, htools⟩ : ∃ payload, Json.read? twoCalls.render = some payload ∧
      (Chat.callsIn payload).items?.map (List.map Chat.toolIn) =
        some [some "drop_tables", some "list_files"] := by
    rw [← Option.bind_eq_some_iff]
    decide +kernel
  obtain ⟨items, hitems, hnames⟩ := Option.map_eq_some_iff.mp htools
  have hcalls : Chat.callsIn payload = .arr items := by
    unfold Json.items? at hitems
    split at hitems
    · next heq => exact heq.trans (congrArg _ (Option.some.inj hitems))
    · simp at hitems
  have hlength : items.length = 2 := by rw [← List.length_map, hnames]; rfl
  have hnamed : ∀ j ∈ items, ∃ name, Chat.toolIn j = some name := by
    intro j hj
    have hmem : Chat.toolIn j ∈ [some "drop_tables", some "list_files"] :=
      hnames ▸ List.mem_map_of_mem hj
    simp only [List.mem_cons, List.not_mem_nil, or_false] at hmem
    exact hmem.elim (⟨_, ·⟩) (⟨_, ·⟩)
  have hbrings : Chat.Brings 3 s.line.incoming payload := by
    refine ⟨[.response 503 none ""], 200, none, _, [], rfl, by decide, ?_, rfl, hread⟩
    simp [Chat.Exchange.IsTransient, Chat.Exchange.AsksTooLong]
  have hsome : items ≠ [] := List.ne_nil_of_length_pos (by omega)
  have hroom : 1 ≤ askingService.limits.maxRows := by decide
  obtain ⟨calls, hwritten, ⟨entries, hends, hentries⟩ | ⟨-, hsilent, -⟩⟩ :=
    chatTurn_reports_calls hroom rfl (Option.some_ne_none _) hbrings hcalls hsome hnamed
      [⟨"user", "hello"⟩]
  · refine ⟨entries, congrArg Prod.fst hends, ?_⟩
    rw [hentries.length, ← hwritten.length_eq, hlength]
  · exact absurd hsilent List.not_mem_nil

end Service

end QueryGate
