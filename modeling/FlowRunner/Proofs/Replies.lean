import FlowRunner.Proofs.ExactNumbers
import FlowRunner.Proofs.Requests

/-!
# Replies to API steps

An attempt of an API step with a call hands one request to a client, and asks for nothing else
(`Api.Trial`). A client that refuses the request sends nothing, and the attempt fails. Otherwise the
request is sent, and what comes of it settles the attempt (`Api.Settles`): it succeeds if the reply
has the status that the step expects, with the part of the body that counts (`Value.Counts`), and
otherwise fails with both statuses, the URL as written and the start of the body's text
(`Value.Quotes`).

The client follows redirections by itself, so a reply is the last one that it got.
-/

namespace FlowRunner

/-! ## The part of a body that counts -/

namespace Value

/-- The value of the text of a body: null if there is none, what it says if it is JSON, and else the
text. -/
inductive BodyOf : (text : String) → Value → Prop
  | nothing : BodyOf "" .null
  | json {text : String} {v : Value} (htext : text ≠ "") (h : Value.ofJson text = .ok v) :
    BodyOf text v
  | plain {text : String} {fault : Json.Fault} (htext : text ≠ "")
    (h : Value.ofJson text = .error fault) : BodyOf text (.text text)

theorem bodyOf_ofBody (text : String) : BodyOf text (ofBody text) := by
  unfold ofBody
  by_cases htext : text = ""
  · rw [htext]
    exact .nothing
  · rw [if_neg (mt String.isEmpty_iff.mp htext)]
    cases h : Value.ofJson text with
    | ok v => exact .json htext h
    | error fault => exact .plain htext h

/-- Nothing stands there: null, false, zero or the empty text. -/
inductive Blank : Value → Prop
  | null : Blank .null
  | false : Blank (.bool false)
  | zero {n : Number} (h : n.value = 0) : Blank (.number n)
  | text : Blank (.text "")

/-- The members tell no errors: there is no such member, or nothing stands there, or no item. -/
def NoErrors (members : List (String × Value)) : Prop :=
  ∀ v, Members.get? "errors" members = some v → Blank v ∨ v = .list []

/-- The members have nothing under a key. -/
def NothingAt (key : String) (members : List (String × Value)) : Prop :=
  ∀ v, Members.get? key members = some v → Blank v

/-- What counts of a body: of an object its errors, its data or its result, the first of them that
is there. -/
inductive Counts : Value → Value → Prop
  | whole {body : Value} (h : ∀ members, body ≠ .object members) : Counts body body
  | errors {members : List (String × Value)} {v : Value}
    (hget : Members.get? "errors" members = some v) (hv : ¬ Blank v) (hitems : v ≠ .list []) :
    Counts (.object members) v
  | data {members : List (String × Value)} {v : Value} (herrors : NoErrors members)
    (hget : Members.get? "data" members = some v) (hv : ¬ Blank v) : Counts (.object members) v
  | result {members : List (String × Value)} {v : Value} (herrors : NoErrors members)
    (hdata : NothingAt "data" members) (hget : Members.get? "result" members = some v)
    (hv : ¬ Blank v) : Counts (.object members) v
  | envelope {members : List (String × Value)} (herrors : NoErrors members)
    (hdata : NothingAt "data" members) (hresult : NothingAt "result" members) :
    Counts (.object members) (.object members)

theorem holds_eq_false_iff {v : Value} : v.holds = false ↔ Blank v := by
  constructor
  · intro h
    match v with
    | .null => exact .null
    | .bool false => exact .false
    | .number (.integer n hrange) =>
      have hn : n = 0 := by simpa [holds] using h
      exact .zero (by simp [Number.value, hn])
    | .number (.real x) =>
      have hx : x.isZero = true := by simpa [holds] using h
      exact .zero (Binary64.isZero_iff.mp hx)
    | .text s =>
      have hs : s = "" := by simpa [holds] using h
      rw [hs]
      exact .text
  · intro h
    cases h with
    | null => rfl
    | false => rfl
    | @zero n hzero =>
      cases n with
      | integer n hrange =>
        have hn : n = 0 := by simpa [Number.value] using hzero
        simp [holds, hn]
      | real x =>
        have hx : x.isZero = true := Binary64.isZero_iff.mpr hzero
        simp [holds, hx]
    | text => rfl

theorem holds_iff {v : Value} : v.holds = true ↔ ¬ Blank v := by
  rw [← holds_eq_false_iff, Bool.not_eq_false]

theorem isEmptyList_iff {v : Value} : v.isEmptyList = true ↔ v = .list [] := by
  cases v <;> simp [isEmptyList]

theorem nothingAt_of_filter {key : String} {members : List (String × Value)}
    (h : (Members.get? key members).filter holds = none) : NothingAt key members := by
  intro v hget
  rw [hget] at h
  simpa [holds_iff] using h

theorem noErrors_of_filter {members : List (String × Value)}
    (h : ((Members.get? "errors" members).filter fun v => v.holds && !v.isEmptyList) = none) :
    NoErrors members := by
  intro v hget
  rw [hget] at h
  simpa [holds_iff, isEmptyList_iff, or_iff_not_imp_left] using h

theorem counts_unwrapped (body : Value) : Counts body body.unwrapped := by
  match body with
  | .object members =>
    simp only [unwrapped]
    cases herrors : (Members.get? "errors" members).filter fun v => v.holds && !v.isEmptyList with
    | some v =>
      obtain ⟨hget, hv⟩ := Option.filter_eq_some_iff.mp herrors
      rw [Bool.and_eq_true, Bool.not_eq_true', ← Bool.not_eq_true, holds_iff, isEmptyList_iff] at hv
      exact .errors hget hv.1 hv.2
    | none =>
      have hnone := noErrors_of_filter herrors
      cases hdata : (Members.get? "data" members).filter holds with
      | some v =>
        obtain ⟨hget, hv⟩ := Option.filter_eq_some_iff.mp hdata
        exact .data hnone hget (holds_iff.mp hv)
      | none =>
        cases hresult : (Members.get? "result" members).filter holds with
        | some v =>
          obtain ⟨hget, hv⟩ := Option.filter_eq_some_iff.mp hresult
          exact .result hnone (nothingAt_of_filter hdata) hget (holds_iff.mp hv)
        | none => exact .envelope hnone (nothingAt_of_filter hdata) (nothingAt_of_filter hresult)
  | .null => exact .whole fun _ h => nomatch h
  | .bool _ => exact .whole fun _ h => nomatch h
  | .number _ => exact .whole fun _ h => nomatch h
  | .text _ => exact .whole fun _ h => nomatch h
  | .list _ => exact .whole fun _ h => nomatch h

/-- What a failure quotes of a body: its text, or the first 200 characters of it and three dots. -/
inductive Quotes (body : Value) : String → Prop
  | whole (h : body.plain.length ≤ 200) : Quotes body body.plain
  | cut {kept rest : String} (h : body.plain = kept ++ rest) (hkept : kept.length = 200)
    (hrest : rest ≠ "") : Quotes body (kept ++ "...")

theorem quotes_excerpt (body : Value) : Quotes body (body.excerpt 200) := by
  unfold excerpt
  dsimp only
  split
  · rename_i h
    exact .whole h
  · rename_i h
    have hsplit : body.plain =
        String.ofList (body.plain.toList.take 200) ++ String.ofList (body.plain.toList.drop 200) := by
      rw [← String.ofList_append, List.take_append_drop, String.ofList_toList]
    refine .cut hsplit ?_ ?_
    · rw [String.length_ofList, List.length_take_of_le (Nat.le_of_not_le h)]
    · intro hempty
      have hlength := congrArg String.length hempty
      rw [String.length_ofList, List.length_drop, String.length_empty] at hlength
      omega

end Value

/-! ## The attempt of an API step -/

/-- The request that a client has sent. -/
def Exchange.sent? : Exchange → Option HttpRequest
  | ⟨.request _, .error (.refused _)⟩ => none
  | ⟨.request request, _⟩ => some request
  | _ => none

namespace Api

open HttpRequest

/-- The status that a step expects: its own, if that is a number of 16 bits. -/
inductive Expects (step : Step) : Nat → Prop
  | own {status : Nat} (hstatus : step.natural? "status" = some status) (hfits : status ≤ 65535) :
    Expects step status
  | default (h : ∀ status, step.natural? "status" = some status → 65535 < status) :
    Expects step 200

/-- How what came of the request for a call settles the attempt of a step. -/
inductive Settles (step : Step) (call : Call) :
    Except HttpFailure HttpReply → Except Failure Value → Prop
  | timedOut : Settles step call (.error .timedOut)
    (.error (.backend (.timeout (call.method ++ " " ++ call.url))))
  | failed (text : String) :
    Settles step call (.error (.failed text)) (.error (.backend (.server text)))
  /-- The status has come, but the body cannot be read. -/
  | unread (status : Nat) (text : String) :
    Settles step call (.ok ⟨status, .error text⟩) (.error (.backend (.server text)))
  | accepted {status : Nat} {text : String} {body part : Value} (hstatus : Expects step status)
    (hbody : body.BodyOf text) (hpart : body.Counts part) :
    Settles step call (.ok ⟨status, .ok text⟩) (.ok part)
  | mismatched {status expected : Nat} {text quote : String} {body : Value}
    (hexpected : Expects step expected) (hstatus : status ≠ expected) (hbody : body.BodyOf text)
    (hquote : body.Quotes quote) :
    Settles step call (.ok ⟨status, .ok text⟩) (.error (.status expected status call.url quote))

/-- What an attempt of a step with a call asks for, and its outcome. -/
inductive Trial {σ : Type} (answer : Backends σ) (step : Step) (call : Call) (s : σ) :
    List Exchange → Except Failure Value → Prop
  /-- The client sends nothing. -/
  | refused {request : HttpRequest} (hcarries : Carries call request) {text : String}
    (hreply : (answer (.request request) s).1 = .error (.refused text)) :
    Trial answer step call s [⟨.request request, .error (.refused text)⟩]
      (.error (.backend (.server text)))
  | sent {request : HttpRequest} (hcarries : Carries call request)
    (hsent : ∀ text, (answer (.request request) s).1 ≠ .error (.refused text))
    {outcome : Except Failure Value}
    (hsettles : Settles step call (answer (.request request) s).1 outcome) :
    Trial answer step call s [⟨.request request, (answer (.request request) s).1⟩] outcome

theorem fits_iff {status : Nat} : Reading.fits 16 status = true ↔ status ≤ 65535 := by
  rw [Reading.fits, decide_eq_true_iff]
  omega

theorem expects_statusOf (step : Step) : Expects step (statusOf step) := by
  unfold statusOf
  cases hown : (step.natural? "status").filter (Reading.fits 16) with
  | some status =>
    obtain ⟨hstatus, hfits⟩ := Option.filter_eq_some_iff.mp hown
    exact .own hstatus (fits_iff.mp hfits)
  | none =>
    refine .default fun status hstatus => ?_
    rw [hstatus] at hown
    have hfits : ¬ Reading.fits 16 status = true := by simpa using hown
    rw [fits_iff] at hfits
    omega

theorem settles_outcomeOf (step : Step) (call : Call) {reply : Except HttpFailure HttpReply}
    (hsent : ∀ text, reply ≠ .error (.refused text)) :
    Settles step call reply (outcomeOf step call.url (conclude call.method call.url reply)) := by
  match reply with
  | .error .timedOut => exact .timedOut
  | .error (.failed text) => exact .failed text
  | .error (.refused text) => exact absurd rfl (hsent text)
  | .ok ⟨status, .error text⟩ => exact .unread status text
  | .ok ⟨status, .ok text⟩ =>
    rw [conclude, outcomeOf]
    split
    · rename_i hstatus
      have hexpects := expects_statusOf step
      rw [← hstatus] at hexpects
      exact .accepted hexpects (Value.bodyOf_ofBody text) (Value.counts_unwrapped _)
    · rename_i hstatus
      exact .mismatched (expects_statusOf step) hstatus (Value.bodyOf_ofBody text)
        (Value.quotes_excerpt _)

/-- An attempt of a step with a call hands the one request for it to the client. What comes of the
request settles the attempt, if the client sends it. -/
theorem invocation_sends {σ : Type} (answer : Backends σ) (config : Config) {step : Step}
    {action : String} {call : Call} (hcall : Describes step action call) (s : σ) :
    Trial answer step call s
      ((Attempt.invocation config ⟨.api, action⟩ step).history answer s)
      ((Attempt.invocation config ⟨.api, action⟩ step).run answer s).1 := by
  change Trial answer step call s ((Api.run step action).run.history answer s)
    ((Api.run step action).run.run answer s).1
  rw [run_of_describes hcall, run_send step hcall.method_mem]
  have hcarries := carries_prepare call
  by_cases hsent : ∀ text, (answer (.request (prepare call.method call.url call.mapping call.body))
      s).1 ≠ .error (.refused text)
  · exact .sent hcarries hsent (settles_outcomeOf step call hsent)
  · obtain ⟨text, hreply⟩ := not_forall_not.mp hsent
    simp only [Script.history, Script.run, hreply]
    exact .refused hcarries hreply

/-- A step that creates a user. -/
def createUser : Step where
  action := "post"
  payload := [("end point", .text "http://svc/users"), ("status", .text " 201"),
    ("body", .object [("name", .text "alice")])]

/-- The call of the step. -/
def createCall : Call where
  method := "POST"
  url := "http://svc/users"
  mapping := [("content-type", .text "application/json")]
  body := some (.object [("name", .text "alice")])

/-- A network on which the user is created; the reply has a list of errors without an item. -/
def createdStage : Stage :=
  Attempt.onlineStage 201 "\x7b\"errors\": [], \"data\": \x7b\"id\": 17\x7d\x7d"

theorem invocation_sends_created :
    Describes createUser "post" createCall ∧
      Trial Stage.answer createUser createCall createdStage
        ((Attempt.invocation {} ⟨.api, "post"⟩ createUser).history Stage.answer createdStage)
        ((Attempt.invocation {} ⟨.api, "post"⟩ createUser).run Stage.answer createdStage).1 ∧
      ((Attempt.invocation {} ⟨.api, "post"⟩ createUser).history Stage.answer createdStage).length =
        1 ∧
      (((Attempt.invocation {} ⟨.api, "post"⟩ createUser).run Stage.answer
        createdStage).1.toOption.bind (Value.member? "id")).map Value.plain = some "17" := by
  have hcall : Describes createUser "post" createCall := .send (by simp [senders]) rfl
  exact ⟨hcall, invocation_sends Stage.answer {} hcall createdStage, by decide +kernel,
    by decide +kernel⟩

/-- A step whose end point is a path without a host. -/
def relativeGet : Step where
  action := "get"
  payload := [("end point", .text "/users")]

/-- Nothing is sent to a URL that leads to no host, although the network would answer. -/
theorem relative_unsent :
    relativeGet.text? "end point" = some "/users" ∧
      ¬ ∃ request, ((Attempt.invocation {} ⟨.api, "get"⟩ relativeGet).history Stage.answer
        (Attempt.onlineStage 200 "ok")).filterMap Exchange.sent? = [request] := by
  refine ⟨rfl, ?_⟩
  rintro ⟨request, hsent⟩
  have hnone : ((Attempt.invocation {} ⟨.api, "get"⟩ relativeGet).history Stage.answer
      (Attempt.onlineStage 200 "ok")).filterMap Exchange.sent? = [] := by decide +kernel
  rw [hnone] at hsent
  cases hsent

end Api

end FlowRunner
