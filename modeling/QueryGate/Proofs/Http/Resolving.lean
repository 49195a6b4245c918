import Mathlib.Data.List.Basic
import QueryGate.Http.Surface
import QueryGate.Proofs.Filter.Grammar
import QueryGate.Proofs.Json.RoundTrip
import QueryGate.Proofs.Service.Building
import QueryGate.Proofs.Sql.Reading.Texts

set_option relaxedAutoImplicit false
set_option autoImplicit false

/-!
# Resolving a name by either way in

A name is resolved for a model that calls a tool and for a caller over the network. The two ways in
read the same arguments, and both ask the service. Only the one over the network looks at the name
first, and refuses a name that is blank, long, or holds a character that might end a literal. The
tool resolves such a name like any other.

## Main definitions

* `QueryGate.ResolveRequest.Written` — the ways in which a request to resolve a name is written.
* `QueryGate.IsPlaceName` — the names that are resolved over the network.
* `QueryGate.Service.SurfacesAgree` — the two ways in answer a text alike.

## Main results

* `QueryGate.Service.surfacesAgree_iff_of_spells` — they agree on any arguments that are refused for
  their shape, and otherwise as far as the network lets the request through.
* `QueryGate.Service.resolves_alike_iff` — they agree on a name exactly when it is such a name.
-/

namespace QueryGate

open Json Json.Shape Outcome

/-! ## Requests as they are written -/

namespace ResolveRequest

/-- A level is written as its word or as an object whose one key is the word, and none as null. -/
inductive LevelWritten : Option Level → Json → Prop
  | none : LevelWritten none .null
  | word (l : Level) : LevelWritten (some l) (.str l.text)
  | key (l : Level) : LevelWritten (some l) (.obj [(l.text, .null)])

/-- A request is written as an object, or as a list of the name and the level. Where there is no
level, it may be left out. -/
inductive Written : ResolveRequest → Json → Prop
  | object {name : String} {level : Option Level} {j : Json} (h : LevelWritten level j) :
    Written ⟨name, level⟩ (.obj [("name", .str name), ("level", j)])
  | levelFirst {name : String} {level : Option Level} {j : Json} (h : LevelWritten level j) :
    Written ⟨name, level⟩ (.obj [("level", j), ("name", .str name)])
  | nameAlone (name : String) : Written ⟨name, none⟩ (.obj [("name", .str name)])
  | list {name : String} {level : Option Level} {j : Json} (h : LevelWritten level j) :
    Written ⟨name, level⟩ (.arr [.str name, j])
  | listAlone (name : String) : Written ⟨name, none⟩ (.arr [.str name])

variable {r : ResolveRequest} {j : Json}

/-- A request that is written so is read. -/
lemma Written.read (h : Written r j) (name : String) :
    (record name { name := "" } fields).ofJson j = .ok r := by
  cases h with
  | nameAlone _ | listAlone _ => rfl
  | object h | levelFirst h | list h =>
    cases h with
    | none => rfl
    | word l | key l => cases l <;> rfl

/-- It holds every key once. -/
lemma Written.distinct (h : Written r j) : Distinct j := by
  have hlevel : ∀ {level : Option Level} {j : Json}, LevelWritten level j → Distinct j := by
    intro level j h
    cases h with
    | none => exact .bare rfl
    | word l => exact .str l.text
    | key l => exact .obj (by simp) (by simpa using .bare rfl)
  cases h with
  | object h | levelFirst h => exact .obj (by simp) (by simp [Distinct.str, hlevel h])
  | nameAlone name => exact .obj (by simp) (by simp [Distinct.str])
  | list h => exact .arr (by simp [Distinct.str, hlevel h])
  | listAlone name => exact .arr (by simp [Distinct.str])

/-- It nests no deeper than it may. -/
lemma Written.shallow (h : Written r j) : Shallow Reader.depthLimit j := by
  have hlevel : ∀ {level : Option Level} {j : Json}, LevelWritten level j → Shallow 126 j := by
    intro level j h
    cases h with
    | none => exact .null
    | word l => exact .str l.text
    | key l => exact .obj (by simp [Shallow.null])
  cases h with
  | object h | levelFirst h => exact .obj (by simp [Shallow.str, hlevel h])
  | nameAlone name => exact .obj (by simp [Shallow.str])
  | list h => exact .arr (by simp [Shallow.str, hlevel h])
  | listAlone name => exact .arr (by simp [Shallow.str])

end ResolveRequest

/-! ## How long requests are -/

namespace Json

/-- A written character has at most six characters. -/
lemma length_escapedChar_le (c : Char) : (escapedChar c).length ≤ 6 := by
  unfold escapedChar
  split_ifs <;> simp

/-- So a text between quotes is at most six times as long. -/
lemma length_stringChars_le (s : String) : (stringChars s).length ≤ 6 * s.toList.length + 2 := by
  have hinside : ∀ cs : List Char, (cs.flatMap escapedChar).length ≤ 6 * cs.length := by
    intro cs
    induction cs with
    | nil => simp
    | cons c cs ih =>
      have hfirst := length_escapedChar_le c
      rw [List.flatMap_cons, List.length_append, List.length_cons]
      omega
  have hall := hinside s.toList
  simp only [stringChars, List.length_append, List.length_cons, List.length_nil]
  omega

end Json

/-- A character has at most four bytes. -/
lemma Text.utf8ByteSize_ofList_le (cs : List Char) :
    (String.ofList cs).utf8ByteSize ≤ 4 * cs.length := by
  induction cs with
  | nil => simp
  | cons c cs ih =>
    have hfirst := Char.utf8Size_le_four c
    rw [String.ofList_cons, String.utf8ByteSize_append, String.utf8ByteSize_singleton,
      List.length_cons]
    omega

/-- A request with a short name is short. -/
lemma ResolveRequest.Written.length_chars_le {r : ResolveRequest} {j : Json} (h : Written r j)
    (hshort : r.name.toList.length ≤ 500) : (chars j).length ≤ 3100 := by
  have hlevel : ∀ {level : Option Level} {j : Json}, LevelWritten level j →
      (chars j).length ≤ 20 := by
    intro level j h
    cases h with
    | none => decide
    | word l | key l => cases l <;> decide
  have hname : (stringChars r.name).length ≤ 3002 :=
    (length_stringChars_le r.name).trans (by omega)
  have hkey : (stringChars "name").length = 6 := by decide
  have hkey' : (stringChars "level").length = 7 := by decide
  cases h with
  | nameAlone name | listAlone name =>
    dsimp only at hname
    simp only [chars, memberChars, itemChars, List.length_append, List.length_cons,
      List.length_nil, hkey]
    omega
  | object h | levelFirst h | list h =>
    have hwritten := hlevel h
    dsimp only at hname
    simp only [chars, memberChars, itemChars, List.length_append, List.length_cons,
      List.length_nil, hkey, hkey']
    omega

/-! ## Names -/

/-- The names that are resolved over the network: not blank, and harmless. -/
structure IsPlaceName (name : String) : Prop where
  /-- The name holds more than white space. -/
  solid : Text.isBlankText name = false
  /-- It is short and holds no character that might end a literal. -/
  harmless : Harmless name

/-! ## Calls of the tool -/

variable {svc : Service} {s : Service.State} {text : String} {args : Json} {r : ResolveRequest}

/-- Arguments that stand for a value are decoded as that value. -/
lemma ToolCall.decode_of_spells (h : Spells text args) (hdistinct : Distinct args)
    (name : String) : decode name text = ofJson name args := by
  rw [decode, not_blank_of_spells h, if_neg Bool.false_ne_true, read?_of_spells h hdistinct]

namespace Service

open Session

/-- A call with arguments that are read resolves the name. -/
lemma ends_callTool_of_read (h : Spells text args) (hdistinct : Distinct args)
    (hread : Http.resolveShape.ofJson args = .ok r) :
    (svc.callTool "resolve_entity" text).ends s = (svc.runTool (.resolve r)).ends s := by
  have hargs : (record "ResolveArgs" { name := "" } ResolveRequest.fields).ofJson args = .ok r :=
    (record_eq_ok_iff _ _).mp hread
  have hdecode : ToolCall.decode "resolve_entity" text = .ok (.resolve r) := by
    rw [ToolCall.decode_of_spells h hdistinct]
    simp only [ToolCall.ofJson, hargs]
    rfl
  rw [callTool, hdecode, Except.mapError.eq_2, ends_bind_ok (ends_ofExcept_ok _ s)]

/-- A call with other arguments is refused. -/
lemma ends_callTool_of_unread (svc : Service) (s : State) (h : Spells text args)
    (hdistinct : Distinct args) {misfit : Misfit}
    (hread : Http.resolveShape.ofJson args = .error misfit) :
    ∃ refusal : Refusal, (svc.callTool "resolve_entity" text).ends s =
      (.error (.failed refusal.failure), s) := by
  cases hargs : (record "ResolveArgs" { name := "" } ResolveRequest.fields).ofJson args with
  | ok r =>
    have hread' : Http.resolveShape.ofJson args = .ok r := (record_eq_ok_iff _ _).mp hargs
    exact absurd (hread.symm.trans hread') nofun
  | error misfit =>
    have hdecode : ToolCall.decode "resolve_entity" text =
        .error (.toolMisfit "resolve_entity" misfit.message) := by
      rw [ToolCall.decode_of_spells h hdistinct]
      simp only [ToolCall.ofJson, hargs]
      rfl
    rw [callTool, hdecode, Except.mapError.eq_1, ends_bind_error (ends_ofExcept_error _ s)]
    exact ⟨_, rfl⟩

end Service

/-! ## Requests over the network -/

namespace Http

open Service Service.Session

/-- A request over the network to resolve a name, with a text as its body. -/
def Request.resolving (text : String) : Request where
  method := "POST"
  target := "/resolve"
  contentType := some "application/json"
  body := text

/-- How a request ends for its caller where its result ends so. -/
def told : Except Halt Json × State → Except Halt Response × State
  | (.ok j, t) => (.ok (.ofJson j), t)
  | (.error (.failed failure), t) => (.ok (.ofFailure failure), t)
  | (.error halt, t) => (.error halt, t)

/-- A response tells how the result has ended. -/
lemma ends_respond (svc : Service) (r : Request) (route : Route) (s : State) :
    (respond svc r route).ends s = told ((result svc r route).ends s) := by
  rw [respond, ends_bind, ends_attempt]
  rcases (result svc r route).ends s with ⟨(failure | _ | _) | j, t⟩ <;> rfl

/-- A request to resolve a name is answered with its result. -/
lemma ends_answer (svc : Service) (text : String) (s : State) :
    (answer svc (.resolving text)).ends s =
      told ((result svc (.resolving text) .resolve).ends s) := by
  have hpath : (Request.resolving text).path = "/resolve" := by
    have htarget : String.ofList ((withoutHost "/resolve".toList).takeWhile
        fun c => c != '?' && c != '#') = "/resolve" := by decide
    exact htarget
  have hroute : Route.ofPath? "/resolve" = some .resolve := rfl
  have hallowed : Route.resolve.allows (Request.resolving text).method = true := rfl
  have hmethod : ((Request.resolving text).method == "HEAD") = false := rfl
  rw [answer, hpath, hroute]
  simp only [hallowed, hmethod, Bool.not_true, Bool.false_eq_true, if_false, bind_pure]
  exact ends_respond svc _ .resolve s

/-- A text that spells a value is read as that value. -/
lemma Request.readText_of_spells {α : Type} (shape : Shape α) (h : Spells text args) :
    Request.readText shape text =
      match shape.ofJson args with
      | .ok a => .ok a
      | .error misfit =>
        .error (if misfit.isBreak then .bodyNotJson else .bodyMisfit misfit.message) := by
  rw [Request.readText]
  dsimp only
  rw [h.draft, Shape.ofJson]
  cases shape (.ofJson args) with
  | ok a => simp only [h.ends, if_true]
  | error misfit => rfl

/-- The body of a request to resolve a name is read unless it is too long. -/
lemma Request.read_resolving {α : Type} (shape : Shape α) (text : String) :
    (Request.resolving text).read shape =
      if Request.bodyLimit < text.utf8ByteSize then .error .bodyTooLong
      else Request.readText shape text := by
  have hdeclared : (Request.resolving text).isDeclared = true := rfl
  rw [Request.read, hdeclared]
  rfl

/-- A body that is refused is all that is answered. -/
lemma ends_result_of_refused {refusal : Refusal}
    (hbody : (Request.resolving text).read resolveShape = .error refusal) (s : State) :
    (result svc (.resolving text) .resolve).ends s = (.error (.failed refusal.failure), s) := by
  rw [result, bodyOf, hbody, Except.mapError.eq_1, ends_bind_error (ends_ofExcept_error _ s)]

/-- What follows once the body is read. -/
lemma ends_result_of_body (hbody : (Request.resolving text).read resolveShape = .ok r)
    (s : State) : (result svc (.resolving text) .resolve).ends s = (do
      if Text.isBlankText r.name then refuse .blankName
      Session.ofExcept ((checkText r.name).mapError Refusal.failure)
      svc.runTool (.resolve r) : Session Json).ends s := by
  rw [result, bodyOf, hbody, Except.mapError.eq_2, ends_bind_ok (ends_ofExcept_ok _ s)]
  rfl

/-- The name of a place is resolved if its request is short enough. -/
lemma ends_result_of_isPlaceName (h : Spells text args) (hread : resolveShape.ofJson args = .ok r)
    (hname : IsPlaceName r.name) (hshort : text.utf8ByteSize ≤ Request.bodyLimit) (s : State) :
    (result svc (.resolving text) .resolve).ends s = (svc.runTool (.resolve r)).ends s := by
  have hbody : (Request.resolving text).read resolveShape = .ok r := by
    rw [Request.read_resolving, if_neg (Nat.not_lt.mpr hshort), Request.readText_of_spells _ h,
      hread]
  rw [ends_result_of_body hbody, hname.solid, checkText_eq_ok_iff.mpr hname.harmless]
  rfl

/-- Any other request is refused. -/
lemma ends_result_of_not (svc : Service) (s : State) (h : Spells text args)
    (hread : resolveShape.ofJson args = .ok r)
    (hnot : ¬ (IsPlaceName r.name ∧ text.utf8ByteSize ≤ Request.bodyLimit)) :
    ∃ refusal : Refusal, (result svc (.resolving text) .resolve).ends s =
      (.error (.failed refusal.failure), s) := by
  by_cases hlong : Request.bodyLimit < text.utf8ByteSize
  · have hbody : (Request.resolving text).read resolveShape = .error .bodyTooLong := by
      rw [Request.read_resolving, if_pos hlong]
    exact ⟨_, ends_result_of_refused hbody s⟩
  have hbody : (Request.resolving text).read resolveShape = .ok r := by
    rw [Request.read_resolving, if_neg hlong, Request.readText_of_spells _ h, hread]
  rw [ends_result_of_body hbody]
  cases hblank : Text.isBlankText r.name with
  | true => exact ⟨.blankName, rfl⟩
  | false =>
    cases hcheck : checkText r.name with
    | error refusal => exact ⟨refusal, rfl⟩
    | ok _ =>
      exact absurd ⟨⟨hblank, checkText_eq_ok_iff.mp hcheck⟩, Nat.le_of_not_lt hlong⟩ hnot

/-- A request whose arguments are not read is refused. -/
lemma ends_result_of_unread (svc : Service) (s : State) (h : Spells text args)
    {misfit : Misfit} (hread : resolveShape.ofJson args = .error misfit) :
    ∃ refusal : Refusal, (result svc (.resolving text) .resolve).ends s =
      (.error (.failed refusal.failure), s) := by
  have hbody : ∃ refusal, (Request.resolving text).read resolveShape = .error refusal := by
    rw [Request.read_resolving, Request.readText_of_spells _ h, hread]
    split_ifs <;> exact ⟨_, rfl⟩
  obtain ⟨refusal, hbody⟩ := hbody
  exact ⟨refusal, ends_result_of_refused hbody s⟩

end Http

/-! ## Both ways in -/

namespace Service

open Session

/-- A tool and the network answer alike: with one result, with failures of one code, or not at all,
because the engine stays silent. -/
inductive SameAnswer : Except Halt Json → Except Halt Http.Response → Prop
  | result (j : Json) : SameAnswer (.ok j) (.ok (.ofJson j))
  | failed {failure failure' : Failure} (h : failure.code = failure'.code) :
    SameAnswer (.error (.failed failure)) (.ok (.ofFailure failure'))
  | silent : SameAnswer (.error .abandoned) (.error .abandoned)

/-- The call of a tool and the request over the network answer a text of arguments alike. -/
def SurfacesAgree (svc : Service) (s : State) (text : String) : Prop :=
  SameAnswer ((svc.callTool "resolve_entity" text).ends s).1
    ((Http.answer svc (.resolving text)).ends s).1

/-- A result and a failure are told apart by their status. -/
lemma SameAnswer.not_failed {j : Json} {failure : Failure} :
    ¬ SameAnswer (.ok j) (.ok (.ofFailure failure)) := by
  intro h
  generalize hresponse : Http.Response.ofFailure failure = response at h
  cases h with
  | result =>
    have hstatus : failure.code.status = 200 := congrArg Http.Response.status hresponse
    cases hcode : failure.code <;> rw [hcode] at hstatus <;> exact absurd hstatus (by decide)

/-- A name is resolved, unless the engine stays silent while the coverage is built. -/
lemma ends_runTool_resolve (svc : Service) (s : State) (r : ResolveRequest) :
    ∃ t, (∃ j, (svc.runTool (.resolve r)).ends s = (.ok j, t)) ∨
      (svc.runTool (.resolve r)).ends s = (.error .abandoned, t) := by
  obtain ⟨t, ⟨c, hcoverage⟩ | hcoverage⟩ := ends_coverage svc s
  · refine ⟨t, .inl ⟨(svc.resolver.resolve c r.name r.level).toJson, ?_⟩⟩
    rw [runTool, resolve, ends_bind_ok (ends_bind_ok hcoverage _)]
    rfl
  · refine ⟨t, .inr ?_⟩
    rw [runTool, resolve, ends_bind_error (ends_bind_error hcoverage _)]

/-- **The two ways in agree on arguments that are refused for their shape, and on any others exactly
when the name is that of a place and the request is short enough.** -/
theorem surfacesAgree_iff_of_spells (h : Spells text args) (hdistinct : Distinct args) :
    SurfacesAgree svc s text ↔ ∀ r, Http.resolveShape.ofJson args = .ok r →
      IsPlaceName r.name ∧ text.utf8ByteSize ≤ Http.Request.bodyLimit := by
  rw [SurfacesAgree, Http.ends_answer]
  cases hread : Http.resolveShape.ofJson args with
  | error misfit =>
    obtain ⟨refusal, htool⟩ := ends_callTool_of_unread svc s h hdistinct hread
    obtain ⟨refusal', hresult⟩ := Http.ends_result_of_unread svc s h hread
    rw [htool, hresult]
    exact iff_of_true (.failed rfl) nofun
  | ok r =>
    have hrequest : (∀ r', (.ok r : Except Misfit ResolveRequest) = .ok r' → IsPlaceName r'.name ∧
        text.utf8ByteSize ≤ Http.Request.bodyLimit) ↔
          IsPlaceName r.name ∧ text.utf8ByteSize ≤ Http.Request.bodyLimit := by simp
    rw [hrequest, ends_callTool_of_read h hdistinct hread]
    obtain ⟨t, hends⟩ := ends_runTool_resolve svc s r
    by_cases haccepted : IsPlaceName r.name ∧ text.utf8ByteSize ≤ Http.Request.bodyLimit
    · rw [Http.ends_result_of_isPlaceName h hread haccepted.1 haccepted.2]
      refine iff_of_true ?_ haccepted
      rcases hends with ⟨j, hends⟩ | hends
      · rw [hends]
        exact .result j
      · rw [hends]
        exact .silent
    · obtain ⟨refusal, hresult⟩ := Http.ends_result_of_not svc s h hread haccepted
      refine iff_of_false ?_ haccepted
      rw [hresult]
      rcases hends with ⟨j, hends⟩ | hends
      · rw [hends]
        exact SameAnswer.not_failed
      · rw [hends]
        exact nofun

/-- **The two ways in resolve a name alike exactly when it is the name of a place.**

However a request with the name and a level or none is written, its text over the network is
answered as by a tool if the name is that of a place and the text is short enough, which the compact
text always is.

**Proof sketch.** Both ways read the arguments by one reader (`surfacesAgree_iff_of_spells`).
Arguments that it does not take are refused by both. Those that it takes are resolved by the tool as
they are, while over the network the name is checked first, and the body must not be too long. A
request with the name of a place is short, as such names are and a character takes at most six when
it is escaped (`ResolveRequest.Written.length_chars_le`). -/
theorem resolves_alike_iff (svc : Service) (s : State) (h : r.Written args) :
    (svc.SurfacesAgree s args.render ↔ IsPlaceName r.name) ∧
      ∀ text, Spells text args → (svc.SurfacesAgree s text ↔
        IsPlaceName r.name ∧ text.utf8ByteSize ≤ Http.Request.bodyLimit) := by
  have hread : Http.resolveShape.ofJson args = .ok r := h.read _
  have hany : ∀ text, Spells text args → (svc.SurfacesAgree s text ↔
      IsPlaceName r.name ∧ text.utf8ByteSize ≤ Http.Request.bodyLimit) := by
    intro text hspells
    rw [surfacesAgree_iff_of_spells hspells h.distinct, hread]
    simp
  have hshort : IsPlaceName r.name → args.render.utf8ByteSize ≤ Http.Request.bodyLimit := by
    intro hname
    have hlength := h.length_chars_le hname.harmless.short
    have hbytes : args.render.utf8ByteSize ≤ 4 * (chars args).length :=
      Text.utf8ByteSize_ofList_le _
    have hlimit : 4 * 3100 ≤ Http.Request.bodyLimit := by simp [Http.Request.bodyLimit]
    exact (hbytes.trans (Nat.mul_le_mul_left 4 hlength)).trans hlimit
  exact ⟨(hany _ (spells_render h.shallow)).trans (and_iff_left_of_imp hshort), hany⟩

/-- A service without datasets. -/
def bareService : Service where
  catalog := ⟨[]⟩
  reader := Sql.grammatical
  taken := Sql.takesBuilt_grammatical

/-- A name that both resolve, with its level first. -/
theorem resolves_alike_paris :
    let args : Json := .obj [("level", .str "city"), ("name", .str "Paris")]
    ResolveRequest.Written ⟨"Paris", some .city⟩ args ∧ IsPlaceName "Paris" ∧
      bareService.SurfacesAgree {} args.render := by
  have hwritten : ResolveRequest.Written ⟨"Paris", some .city⟩
      (.obj [("level", .str "city"), ("name", .str "Paris")]) := .levelFirst (.word .city)
  have hname : IsPlaceName "Paris" := ⟨by decide, checkText_eq_ok_iff.mp rfl⟩
  exact ⟨hwritten, hname, (resolves_alike_iff bareService {} hwritten).1.mpr hname⟩

/-- An empty name is resolved by a tool and refused over the network. -/
theorem not_resolves_alike_empty :
    let args : Json := .obj [("name", .str "")]
    ResolveRequest.Written ⟨"", none⟩ args ∧ args.render = "\x7b\"name\":\"\"\x7d" ∧
      ¬ bareService.SurfacesAgree {} args.render := by
  have hwritten : ResolveRequest.Written ⟨"", none⟩ (.obj [("name", .str "")]) := .nameAlone ""
  refine ⟨hwritten, by decide, fun hagree => ?_⟩
  have hname : IsPlaceName "" :=
    ((surfacesAgree_iff_of_spells (spells_render hwritten.shallow) hwritten.distinct).mp hagree _
      (hwritten.read _)).1
  exact absurd hname.solid (by decide)

end Service

end QueryGate
