import FlowRunner.Proofs.Attempts
import FlowRunner.Proofs.DistinctKeys
import FlowRunner.Proofs.Programs

/-!
# Requests of API steps

An API step that has what its action needs makes one call (`Api.Describes`). The call is handed to a
client in the request that `HttpRequest.Carries` describes. The client may refuse to send it, and
may add headers of its own, which are not looked at here.

The content type is decided in three places: by the mapping of the step or its default, by the
action, which replaces what the mapping says for GraphQL, and by the body, which is JSON unless the
mapping says otherwise. `Attempt.requests_headed` is what comes of this in every request of a step.
-/

namespace FlowRunner

/-- The request that an effect asks for. -/
def Effect.request? : Effect → Option HttpRequest
  | .request sent => some sent
  | _ => none

theorem Effect.request?_eq_some_iff {effect : Effect} {request : HttpRequest} :
    effect.request? = some request ↔ effect = .request request := by
  cases effect <;> simp [Effect.request?]

namespace Api

/-- Something to be sent: a method, a URL as written, a mapping of headers and a body. -/
structure Call where
  method : String
  url : String
  mapping : List (String × Value)
  body : Option Value

/-- The actions that send the body of a step, with their methods. -/
def senders : List (String × String) :=
  [("post", "POST"), ("put", "PUT"), ("patch", "PATCH"), ("delete", "DELETE")]

/-- The call of a step for an action. -/
inductive Describes (step : Step) : (action : String) → Call → Prop
  | get {url : String} (hurl : step.text? "end point" = some url) :
    Describes step "get"
      ⟨"GET", url ++ (step.text? "value_params").getD "", headersOf step, none⟩
  | send {action method url : String} (haction : (action, method) ∈ senders)
    (hurl : step.text? "end point" = some url) :
    Describes step action ⟨method, url, headersOf step, step.get? "body"⟩
  | graphql {url : String} {body : Value} (hurl : step.text? "end point" = some url)
    (hbody : step.get? "body" = some body) :
    Describes step "graphql" ⟨"POST", url, graphqlHeaders (headersOf step), some (.object [
      ("query", (body.member? "query").getD .null),
      ("variables", (body.member? "variables").getD .null)])⟩

end Api

namespace HttpRequest

/-- The headers of a mapping that are not null, with their texts. -/
def named (mapping : List (String × Value)) : List (String × String) :=
  (mapping.filter fun header => !header.2.isNull).map fun header => (header.1, header.2.plain)

/-- The headers that tell a content type, whatever the case of the name. -/
def contentTypes (headers : List (String × String)) : List (String × String) :=
  headers.filter fun header => isContentType header.1

/-- The headers that tell something else. -/
def otherHeaders (headers : List (String × String)) : List (String × String) :=
  headers.filter fun header => !isContentType header.1

/-- A body is sent as JSON: it is neither null nor a text. -/
def IsJson (body : Option Value) : Prop :=
  ∃ v, body = some v ∧ v.isNull = false ∧ v.asText? = none

/-- A request is the one for a call. -/
structure Carries (call : Api.Call) (request : HttpRequest) : Prop where
  method : request.method = call.method
  url : request.url = call.url
  /-- A body that is JSON is said to be so, if the mapping does not tell a content type. -/
  completed : IsJson call.body → contentTypes (named call.mapping) = [] →
    request.headers = named call.mapping ++ [("content-type", "application/json")]
  asNamed : ¬ IsJson call.body ∨ contentTypes (named call.mapping) ≠ [] →
    request.headers = named call.mapping
  body : request.body = (call.body.filter fun v => !v.isNull).map Value.plain

/-! ## Putting a request together -/

theorem headersOf_eq_named (mapping : List (String × Value)) :
    headersOf mapping = named mapping := by
  induction mapping with
  | nil => rfl
  | cons header rest ih =>
    obtain ⟨name, v⟩ := header
    cases hnull : v.isNull <;> simp_all [headersOf, named]

theorem namesContentType_eq_false_iff {mapping : List (String × Value)} :
    namesContentType mapping = false ↔ contentTypes (named mapping) = [] := by
  rw [namesContentType, headersOf_eq_named, contentTypes, List.filter_eq_nil_iff, List.any_eq_false]

theorem bodyOf_fst (body : Option Value) :
    (bodyOf body).1 = (body.filter fun v => !v.isNull).map Value.plain := by
  cases body with
  | none => rfl
  | some v => cases v <;> rfl

theorem bodyOf_snd_iff {body : Option Value} : (bodyOf body).2 = true ↔ IsJson body := by
  cases body with
  | none => simp [bodyOf, IsJson]
  | some v => cases v <;> simp [bodyOf, IsJson, Value.isNull, Value.asText?]

theorem method?_of_mem {method : String} (h : method ∈ methods) : method? method = some method := by
  revert method
  decide +kernel

theorem carries_prepare (call : Api.Call) :
    Carries call (prepare call.method call.url call.mapping call.body) where
  method := rfl
  url := rfl
  completed hjson hnone := by
    have htyped : ((bodyOf call.body).2 && !namesContentType call.mapping) = true := by
      rw [bodyOf_snd_iff.mpr hjson, namesContentType_eq_false_iff.mpr hnone]
      rfl
    rw [prepare, if_pos htyped, headersOf_eq_named]
  asNamed h := by
    have huntyped : ¬ ((bodyOf call.body).2 && !namesContentType call.mapping) = true := by
      rw [Bool.and_eq_true, Bool.not_eq_true', bodyOf_snd_iff, namesContentType_eq_false_iff,
        not_and_or]
      exact h
    rw [prepare, if_neg huntyped, List.append_nil, headersOf_eq_named]
  body := bodyOf_fst call.body

/-! ## Content types -/

theorem contentTypes_append_json (headers : List (String × String)) {name : String}
    (hname : isContentType name = true) :
    contentTypes (headers ++ [(name, "application/json")]) =
      contentTypes headers ++ [(name, "application/json")] := by
  simp [contentTypes, List.filter_append, hname]

theorem otherHeaders_append_json (headers : List (String × String)) {name : String}
    (hname : isContentType name = true) :
    otherHeaders (headers ++ [(name, "application/json")]) = otherHeaders headers := by
  simp [otherHeaders, List.filter_append, hname]

theorem contentTypes_otherHeaders (headers : List (String × String)) :
    contentTypes (otherHeaders headers) = [] := by
  simp [contentTypes, otherHeaders, List.filter_filter]

theorem otherHeaders_otherHeaders (headers : List (String × String)) :
    otherHeaders (otherHeaders headers) = otherHeaders headers := by
  simp [otherHeaders, List.filter_filter]

/-- For GraphQL, what the mapping says of the content type is replaced. -/
theorem named_graphqlHeaders (mapping : List (String × Value)) :
    named (Api.graphqlHeaders mapping) =
      otherHeaders (named mapping) ++ [("Content-Type", "application/json")] := by
  have hkey : "Content-Type" ∉
      Members.keys (mapping.filter fun header => !isContentType header.1) := by
    intro hmem
    obtain ⟨header, hheader, hname⟩ := List.mem_map.mp hmem
    have hother := (List.mem_filter.mp hheader).2
    rw [hname] at hother
    revert hother
    decide +kernel
  rw [Api.graphqlHeaders, Members.put_of_not_mem hkey, named, List.filter_append, List.map_append,
    otherHeaders, named, List.filter_map, List.filter_filter, List.filter_filter]
  simp only [Function.comp_def, Bool.and_comm]
  rfl

end HttpRequest

namespace Api

open HttpRequest

/-! ## The call of a step -/

theorem Describes.method_mem {step : Step} {action : String} {call : Call}
    (h : Describes step action call) : call.method ∈ methods := by
  cases h with
  | get hurl => simp [methods]
  | send haction hurl =>
    have hall : ∀ sender ∈ senders, sender.2 ∈ methods := by decide
    exact hall _ haction
  | graphql hurl hbody => simp [methods]

theorem run_of_describes {step : Step} {action : String} {call : Call}
    (h : Describes step action call) :
    Api.run step action = send step call.method call.url call.mapping call.body := by
  cases h with
  | get hurl =>
    simp only [Api.run, endPoint, Program.required]
    rw [Program.need_bind_of_some _ hurl]
  | send haction hurl =>
    simp only [senders, List.mem_cons, Prod.mk.injEq, List.not_mem_nil, or_false] at haction
    rcases haction with ⟨rfl, rfl⟩ | ⟨rfl, rfl⟩ | ⟨rfl, rfl⟩ | ⟨rfl, rfl⟩ <;>
    · simp only [Api.run, sendBody, endPoint, Program.required]
      rw [Program.need_bind_of_some _ hurl]
  | graphql hurl hbody =>
    simp only [Api.run, graphql, endPoint, Program.required]
    rw [Program.need_bind_of_some _ hbody, Program.need_bind_of_some _ hurl]
    rfl

/-- A step that has not what its action needs asks for nothing. -/
theorem run_of_not_describes {step : Step} {action : String}
    (h : ∀ call, ¬ Describes step action call) :
    ∃ failure, Api.run step action = Program.fail failure := by
  have hsend : ∀ method, (action, method) ∈ senders →
      ∃ failure, sendBody step method = Program.fail failure := by
    intro method haction
    cases hurl : step.text? "end point" with
    | some url => exact absurd (.send haction hurl) (h _)
    | none => exact ⟨_, Program.need_bind_of_none _ hurl _⟩
  unfold Api.run
  split
  · cases hurl : step.text? "end point" with
    | some url => exact absurd (.get hurl) (h _)
    | none => exact ⟨_, Program.need_bind_of_none _ hurl _⟩
  · exact hsend "POST" (by simp [senders])
  · exact hsend "PUT" (by simp [senders])
  · exact hsend "PATCH" (by simp [senders])
  · exact hsend "DELETE" (by simp [senders])
  · unfold graphql
    cases hbody : step.get? "body" with
    | none => exact ⟨_, Program.need_bind_of_none _ rfl _⟩
    | some body =>
      rw [Program.need_bind_of_some _ rfl]
      cases hurl : step.text? "end point" with
      | some url => exact absurd (.graphql hurl hbody) (h _)
      | none => exact ⟨_, Program.need_bind_of_none _ hurl _⟩
  · exact ⟨_, rfl⟩

/-- What becomes of a call with what came of its request. -/
def outcomeOf (step : Step) (url : String) :
    Except BackendError HttpResponse → Except Failure Value
  | .error e => .error (.backend e)
  | .ok response =>
    if response.status = statusOf step then .ok response.body.unwrapped
    else
      .error (.status (statusOf step) response.status url (response.body.excerpt excerptLimit))

/-- A call whose method is known is handed to the client. -/
theorem run_send (step : Step) {call : Call} (hmethod : call.method ∈ methods) :
    (send step call.method call.url call.mapping call.body).run =
      .ask (.request (prepare call.method call.url call.mapping call.body)) fun reply =>
        .done (outcomeOf step call.url (conclude call.method call.url reply)) := by
  unfold send exchange
  rw [method?_of_mem hmethod]
  refine congrArg (Script.ask _) (funext fun reply => ?_)
  dsimp only [Script.bind, ExceptT.bindCont]
  cases conclude call.method call.url reply with
  | error e => rfl
  | ok response =>
    dsimp only [ExceptT.bindCont, outcomeOf]
    split
    · rfl
    · rfl

/-! ## The headers of a request -/

/-- The body of the request of a step is sent as JSON. -/
def SendsJson (step : Step) (action : String) : Prop :=
  action = "graphql" ∨ (∃ method, (action, method) ∈ senders) ∧ IsJson (step.get? "body")

/-- The headers of a request are those for an action of a step. -/
structure Headed (step : Step) (action : String) (request : HttpRequest) : Prop where
  /-- What does not tell a content type is sent as the mapping has it, if it is not null. -/
  others : otherHeaders request.headers = otherHeaders (named (headersOf step))
  /-- JSON never goes without a content type. -/
  typed : SendsJson step action → contentTypes request.headers ≠ []
  graphql : action = "graphql" →
    contentTypes request.headers = [("Content-Type", "application/json")]
  completed : action ≠ "graphql" → SendsJson step action →
    contentTypes (named (headersOf step)) = [] →
    contentTypes request.headers = [("content-type", "application/json")]
  asNamed : action ≠ "graphql" →
    ¬ SendsJson step action ∨ contentTypes (named (headersOf step)) ≠ [] →
    contentTypes request.headers = contentTypes (named (headersOf step))

theorem headed_of_ne_graphql {step : Step} {action : String} {call : Call} {request : HttpRequest}
    (haction : action ≠ "graphql") (hmapping : call.mapping = headersOf step)
    (hjson : IsJson call.body ↔ SendsJson step action) (h : Carries call request) :
    Headed step action request := by
  have hname : isContentType "content-type" = true := by decide +kernel
  have hcompleted := h.completed
  have hasNamed := h.asNamed
  rw [hjson, hmapping] at hcompleted hasNamed
  by_cases hbare : SendsJson step action ∧ contentTypes (named (headersOf step)) = []
  · have hheaders := hcompleted hbare.1 hbare.2
    have htypes : contentTypes request.headers = [("content-type", "application/json")] := by
      rw [hheaders, contentTypes_append_json _ hname, hbare.2, List.nil_append]
    refine ⟨?_, fun _ => ?_, fun h => absurd h haction, fun _ _ _ => htypes, fun _ hnot => ?_⟩
    · rw [hheaders, otherHeaders_append_json _ hname]
    · rw [htypes]
      exact List.cons_ne_nil _ _
    · exact absurd hbare (not_and_or.mpr hnot)
  · have hheaders := hasNamed (not_and_or.mp hbare)
    refine ⟨?_, fun hsends => ?_, fun h => absurd h haction, fun _ hsends hnone => ?_, fun _ _ => ?_⟩
    · rw [hheaders]
    · rw [hheaders]
      exact fun hnone => hbare ⟨hsends, hnone⟩
    · exact absurd ⟨hsends, hnone⟩ hbare
    · rw [hheaders]

theorem headed_of_carries {step : Step} {action : String} {call : Call} {request : HttpRequest}
    (hcall : Describes step action call) (h : Carries call request) :
    Headed step action request := by
  cases hcall with
  | get hurl =>
    refine headed_of_ne_graphql (by decide) rfl ?_ h
    simp [IsJson, SendsJson, senders]
  | send haction hurl =>
    have hne : action ≠ "graphql" := by
      rintro rfl
      simp [senders] at haction
    refine headed_of_ne_graphql hne rfl ?_ h
    simp only [SendsJson, hne, false_or]
    exact ⟨fun hjson => ⟨⟨_, haction⟩, hjson⟩, fun hsends => hsends.2⟩
  | graphql hurl hbody =>
    have hname : isContentType "Content-Type" = true := by decide +kernel
    have hnamed := named_graphqlHeaders (headersOf step)
    have htypes : contentTypes (named (graphqlHeaders (headersOf step))) =
        [("Content-Type", "application/json")] := by
      rw [hnamed, contentTypes_append_json _ hname, contentTypes_otherHeaders, List.nil_append]
    have hsome : contentTypes (named (graphqlHeaders (headersOf step))) ≠ [] := by
      rw [htypes]
      exact List.cons_ne_nil _ _
    have hheaders := h.asNamed (.inr hsome)
    refine ⟨?_, fun _ => ?_, fun _ => ?_, fun h => absurd rfl h, fun h => absurd rfl h⟩
    · rw [hheaders, hnamed, otherHeaders_append_json _ hname, otherHeaders_otherHeaders]
    · rw [hheaders]
      exact hsome
    · rw [hheaders, htypes]

end Api

namespace Attempt

open Api HttpRequest

variable {σ : Type} {answer : Backends σ}

/-- An attempt of an API step asks for nothing, or for the one request of its call. -/
theorem carries_of_mem_history {config : Config} {step : Step} {action : String} {s : σ}
    {x : Exchange} (hx : x ∈ (invocation config ⟨.api, action⟩ step).history answer s) :
    ∃ call request, Describes step action call ∧ Carries call request ∧
      x.effect = .request request := by
  change x ∈ (Api.run step action).run.history answer s at hx
  by_cases hcall : ∃ call, Describes step action call
  · obtain ⟨call, hcall⟩ := hcall
    rw [run_of_describes hcall, run_send step hcall.method_mem] at hx
    obtain rfl := List.mem_singleton.mp hx
    exact ⟨call, _, hcall, carries_prepare call, rfl⟩
  · obtain ⟨failure, hrun⟩ := run_of_not_describes (not_exists.mp hcall)
    rw [hrun] at hx
    cases hx

/-- Whatever mapping and body a step has, every request of all its attempts has the content types
and the other headers for them. -/
theorem requests_headed {config : Config} {step : Step} {action : String} {wait : Duration} {s : σ}
    {x : Exchange} (hx : x ∈ (run config ⟨.api, action⟩ step wait).history answer s)
    {request : HttpRequest} (hrequest : x.effect = .request request) :
    Headed step action request := by
  suffices h : ∀ x ∈ (run config ⟨.api, action⟩ step wait).history answer s,
      x.effect = .request request → Headed step action request from h x hx hrequest
  refine history_induction answer
    (fun log => ∀ x ∈ log, x.effect = .request request → Headed step action request)
    (List.forall_mem_nil _) (fun _ _ hlog hlater => List.forall_mem_append.mpr ⟨hlog, hlater⟩)
    ?_ (fun start x hx hrequest => ?_) s
  · unfold pauseHistory
    split
    · exact List.forall_mem_nil _
    · exact List.forall_mem_singleton.mpr fun h => nomatch h
  · obtain ⟨call, sent, hcall, hcarries, hsent⟩ := carries_of_mem_history hx
    rw [hrequest] at hsent
    cases hsent
    exact headed_of_carries hcall hcarries

/-- A step that changes a user. Its mapping names a key and, as null, a content type and a note. -/
def renameUser : Step where
  action := "patch"
  payload := [("end point", .text "http://svc/users/3"),
    ("header", .object [("X-Key", .ofInt 7), ("Content-TYPE", .null), ("x-note", .null)]),
    ("body", .object [("name", .text "bob")])]

/-- A stage with a network that answers with a status. -/
def onlineStage (status : Nat) (body : String) : Stage :=
  { Stage.empty with network := some [.answer status body.toUTF8] }

theorem requests_headed_rename :
    ∃ x ∈ (run {} ⟨.api, "patch"⟩ renameUser .zero).history Stage.answer (onlineStage 200 "ok"),
      ∃ request, x.effect = .request request ∧ Headed renameUser "patch" request ∧
        request.headers = [("X-Key", "7"), ("content-type", "application/json")] := by
  have hsent : ((run {} ⟨.api, "patch"⟩ renameUser .zero).history Stage.answer
      (onlineStage 200 "ok")).any (fun x => (x.effect.request?.map HttpRequest.headers) ==
        some [("X-Key", "7"), ("content-type", "application/json")]) = true := by
    decide +kernel
  obtain ⟨x, hx, hheaders⟩ := List.any_eq_true.mp hsent
  obtain ⟨request, hrequest, hheaders⟩ := Option.map_eq_some_iff.mp (beq_iff_eq.mp hheaders)
  have heffect := Effect.request?_eq_some_iff.mp hrequest
  exact ⟨x, hx, request, heffect, requests_headed hx heffect, hheaders⟩

end Attempt

end FlowRunner
