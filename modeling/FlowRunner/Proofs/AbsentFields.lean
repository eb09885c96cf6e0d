import FlowRunner.Proofs.WrittenSteps
import FlowRunner.Run.Execution

/-!
# Fields that are null

A payload field that is null counts as absent, whichever operation reads it: every operation looks
at the payload of a step through `Step.get?` only. So steps with the same fields are run by the same
program (`Family.run_congr`), among them a step and the same step without its nulls
(`Step.sameFields_withoutNulls`), and a member of a raw step that resolves to null may as well not
have been written (`Step.runRaw_of_resolved_null`).
-/

namespace FlowRunner

namespace Step

/-- Steps that give the same under every payload key. -/
def SameFields (step other : Step) : Prop :=
  ∀ key, step.get? key = other.get? key

variable {step other : Step}

theorem SameFields.text? (h : step.SameFields other) (key : String) :
    step.text? key = other.text? key := by
  unfold Step.text?
  rw [h key]

theorem SameFields.natural? (h : step.SameFields other) (key : String) :
    step.natural? key = other.natural? key := by
  unfold Step.natural?
  rw [h key]

theorem SameFields.truth (h : step.SameFields other) (key : String) :
    step.truth key = other.truth key := by
  unfold Step.truth
  rw [h key]

theorem SameFields.items (h : step.SameFields other) (key : String) :
    step.items key = other.items key := by
  unfold Step.items
  rw [h key]

theorem SameFields.required (h : step.SameFields other) (key : String) :
    Program.required step key = Program.required other key := by
  unfold Program.required
  rw [h.text? key]

end Step

/-! ## Operations -/

section Operations

variable {step other : Step} (h : step.SameFields other)

include h

namespace Api

theorem headersOf_congr : headersOf step = headersOf other := by
  unfold headersOf
  rw [h "header"]

theorem statusOf_congr : statusOf step = statusOf other := by
  unfold statusOf
  rw [h.natural? "status"]

theorem send_congr (method url : String) (headers : List (String × Value)) (body : Option Value) :
    send step method url headers body = send other method url headers body := by
  unfold send
  rw [statusOf_congr h]

theorem graphql_congr : graphql step = graphql other := by
  unfold graphql endPoint
  simp only [h "body", h.required "end point", headersOf_congr h, send_congr h]

theorem sendBody_congr (method : String) : sendBody step method = sendBody other method := by
  unfold sendBody endPoint
  simp only [h "body", h.required "end point", headersOf_congr h, send_congr h]

theorem run_congr (action : String) : run step action = run other action := by
  unfold run endPoint
  simp only [h.required "end point", h.text? "value_params", headersOf_congr h, send_congr h,
    sendBody_congr h, graphql_congr h]

end Api

namespace TextFile

theorem run_congr (action : String) : run step action = run other action := by
  unfold run
  rw [h.required "filename", h "write_data"]

end TextFile

namespace Event

theorem filterOf_congr : filterOf step = filterOf other := by
  unfold filterOf
  rw [h "event"]

theorem publish_congr : publish step = publish other := by
  unfold publish
  rw [h.required "topic", h "event"]

theorem await_congr (config : Config.Kafka) : await config step = await config other := by
  unfold await
  rw [h.required "topic", h.text? "group_id", filterOf_congr h]

theorem run_congr (config : Config.Kafka) (action : String) :
    run config step action = run config other action := by
  unfold run
  simp only [publish_congr h, await_congr h]

end Event

namespace Sql

theorem textsOf_congr (key : String) : textsOf step key = textsOf other key := by
  unfold textsOf
  rw [h.items key]

theorem ofStep_congr : ofStep step = ofStep other := by
  unfold ofStep
  simp only [h.text?, h "columns", textsOf_congr h]

theorem run_congr (config : Config.Database) (action : String) :
    run config step action = run config other action := by
  unfold run
  rw [ofStep_congr h]

end Sql

namespace Cloud

theorem roleOf_congr : roleOf step = roleOf other := by
  unfold roleOf
  rw [h.text? "access_role"]

theorem upload_congr : upload step = upload other := by
  unfold upload
  rw [h.required "filename", h.required "first_bucket_name", h.text? "key", roleOf_congr h]

theorem download_congr : download step = download other := by
  unfold download
  rw [h.required "bucket", h.required "key", h.text? "filename", roleOf_congr h]

theorem Batch.commandOf_congr : commandOf step = commandOf other := by
  unfold commandOf
  rw [h "command"]

theorem Batch.run_congr (config : Config.Batch) : run config step = run config other := by
  unfold run
  rw [h.required "job_name", h.required "job_queue", h.required "job_definition",
    h.natural? "waitTime", h.text? "status", roleOf_congr h, commandOf_congr h]

theorem secret_congr : secret step = secret other := by
  unfold secret
  rw [h.required "secret_name", roleOf_congr h]

theorem callFunction_congr : callFunction step = callFunction other := by
  unfold callFunction
  rw [h.required "function_name", h.text? "invocation_type", h "payload", roleOf_congr h]

theorem sendMessages_congr : sendMessages step = sendMessages other := by
  unfold sendMessages
  rw [h.required "queue_name", h.items "messages", roleOf_congr h]

theorem receiveMessages_congr (config : Config.Queue) :
    receiveMessages config step = receiveMessages config other := by
  unfold receiveMessages
  rw [h.required "queue_name", h.natural? "max_message_count", roleOf_congr h]

theorem Athena.run_congr (config : Config.Athena) : run config step = run config other := by
  unfold run
  rw [h.required "query", h.text? "database", h.text? "bucket", h.truth "wait", roleOf_congr h]

theorem run_congr (config : Config) (action : String) :
    run config step action = run config other action := by
  unfold run
  simp only [upload_congr h, download_congr h, Batch.run_congr h, secret_congr h,
    callFunction_congr h, sendMessages_congr h, receiveMessages_congr h, Athena.run_congr h]

end Cloud

/-- Every action of every family sees of a step what `Step.get?` gives. -/
theorem Family.run_congr (family : Family) (config : Config) (action : String) :
    family.run config step action = family.run config other action := by
  cases family with
  | api => exact Api.run_congr h action
  | database => exact Sql.run_congr h config.database action
  | file => exact TextFile.run_congr h action
  | cloud => exact Cloud.run_congr h config action
  | messaging => exact Event.run_congr h config.kafka action

end Operations

/-! ## Steps without nulls -/

namespace Step

/-- The step without the payload fields that are null. -/
def withoutNulls (step : Step) : Step :=
  { step with payload := step.payload.filter fun member => !member.2.isNull }

theorem sameFields_withoutNulls {step : Step} (h : Members.Distinct step.payload) :
    step.withoutNulls.SameFields step := by
  intro key
  simp only [get?, withoutNulls]
  rw [Members.get?_filter h fun v => !v.isNull, Option.filter_filter]
  simp only [Bool.and_self]

/-- The nulls of a step change nothing of how it is attempted and what becomes of its result. -/
theorem perform_withoutNulls (config : Config) (index : Nat) (store : Store) {step : Step}
    (h : Members.Distinct step.payload) :
    perform config index store step.withoutNulls = perform config index store step := by
  have honce : ∀ route, Attempt.once config route step.withoutNulls =
      Attempt.once config route step := by
    intro route
    unfold Attempt.once
    rw [Family.run_congr (sameFields_withoutNulls h)]
    rfl
  have hrun : ∀ route wait, Attempt.run config route step.withoutNulls wait =
      Attempt.run config route step wait := by
    intro route wait
    unfold Attempt.run
    rw [honce]
    rfl
  unfold perform
  simp only [hrun]
  rfl

end Step

/-! ## Members that resolve to null -/

namespace Placeholder

variable {store : Store}

theorem resolveMembers_append (members more : List (String × Value)) :
    resolveMembers store (members ++ more) = (do
      let resolved ← resolveMembers store members
      let others ← resolveMembers store more
      .ok (resolved ++ others)) := by
  induction members with
  | nil =>
    rw [List.nil_append, resolveMembers]
    cases resolveMembers store more <;> rfl
  | cons member rest ih =>
    obtain ⟨key, v⟩ := member
    rw [List.cons_append, resolveMembers, resolveMembers, ih]
    cases resolve store v with
    | error e => rfl
    | ok w =>
      cases resolveMembers store rest with
      | error e => rfl
      | ok resolved => cases resolveMembers store more <;> rfl

/-- A member that resolves to null is a null among the others, which resolve as they would without
it. -/
theorem resolveMembers_null {v : Value} (hnull : resolve store v = .ok .null)
    (before after : List (String × Value)) (key : String) :
    (∃ e, resolveMembers store (before ++ (key, v) :: after) = .error e ∧
        resolveMembers store (before ++ after) = .error e) ∨
      ∃ resolved others,
        resolveMembers store (before ++ (key, v) :: after) =
          .ok (resolved ++ (key, .null) :: others) ∧
        resolveMembers store (before ++ after) = .ok (resolved ++ others) := by
  rw [resolveMembers_append, resolveMembers_append, resolveMembers, hnull]
  cases resolveMembers store before with
  | error e => exact .inl ⟨e, rfl, rfl⟩
  | ok resolved =>
    cases resolveMembers store after with
    | error e => exact .inl ⟨e, rfl, rfl⟩
    | ok others => exact .inr ⟨resolved, others, rfl, rfl⟩

end Placeholder

namespace Step

variable {key : String}

/-- A null in the payload is all that a null member adds to a step. -/
theorem ofRaw_null (hkey : key ∉ controlNames) (before after : List (String × Value)) :
    (∃ misfit, ofRaw (before ++ (key, .null) :: after) = .error misfit ∧
        ofRaw (before ++ after) = .error misfit) ∨
      ∃ step other, ofRaw (before ++ (key, .null) :: after) = .ok step ∧
        ofRaw (before ++ after) = .ok other ∧ step.withoutNulls = other.withoutNulls := by
  have hcontrols : controlsOf (before ++ (key, .null) :: after) = controlsOf (before ++ after) := by
    simp [controlsOf, hkey]
  have haction : Members.has "action" (before ++ (key, .null) :: after) =
      Members.has "action" (before ++ after) := by
    have hne : "action" ≠ key := by
      rintro rfl
      exact hkey (by decide)
    rw [Members.has, Members.has, Members.get?_append_cons_of_ne hne]
  unfold ofRaw
  rw [withMembers_eq {} (before ++ (key, .null) :: after), withMembers_eq {} (before ++ after),
    hcontrols, haction]
  cases withMembers {} (controlsOf (before ++ after)) with
  | error misfit => exact .inl ⟨misfit, rfl, rfl⟩
  | ok step =>
    cases Members.has "action" (before ++ after) with
    | false => exact .inl ⟨_, rfl, rfl⟩
    | true =>
      refine .inr ⟨_, _, rfl, rfl, ?_⟩
      simp [withoutNulls, payloadOf, hkey, Value.isNull]

variable {store : Store} {before after : List (String × Value)} {v : Value}

theorem ofRawWith_of_resolved {raw members : List (String × Value)}
    (h : Placeholder.resolveMembers store raw = .ok members) :
    ofRawWith store raw = (ofRaw members).mapError .badStep := by
  unfold ofRawWith
  rw [h]
  cases hstep : ofRaw members with
  | error misfit => simp [hstep, bind, Except.bind, Except.mapError]
  | ok step => simp [hstep, bind, Except.bind, Except.mapError]

/-- With a member that resolves to null a raw step is refused as it is without it, or gives the same
step but for a null. -/
theorem ofRawWith_null (hraw : Members.Distinct (before ++ (key, v) :: after))
    (hkey : key ∉ controlNames) (hnull : Placeholder.resolve store v = .ok .null) :
    (∃ e, ofRawWith store (before ++ (key, v) :: after) = .error e ∧
        ofRawWith store (before ++ after) = .error e) ∨
      ∃ step other, ofRawWith store (before ++ (key, v) :: after) = .ok step ∧
        ofRawWith store (before ++ after) = .ok other ∧
        Members.Distinct step.payload ∧ Members.Distinct other.payload ∧
        step.withoutNulls = other.withoutNulls := by
  have hdistinct : ∀ {raw members : List (String × Value)} {step : Step}, Members.Distinct raw →
      Placeholder.resolveMembers store raw = .ok members → ofRaw members = .ok step →
        Members.Distinct step.payload := by
    intro raw members step hraw hmembers hstep
    have hdistinct := Placeholder.distinct_of_resolveMembers hraw hmembers
    rw [payload_of_ofRaw hstep]
    exact hdistinct.sublist List.filter_sublist
  have hwithout : Members.Distinct (before ++ after) :=
    hraw.sublist ((List.Sublist.refl before).append (List.sublist_cons_self _ after))
  rcases Placeholder.resolveMembers_null hnull before after key with
    ⟨e, hresolved, hresolved'⟩ | ⟨resolved, others, hresolved, hresolved'⟩
  · unfold ofRawWith
    rw [hresolved, hresolved']
    exact .inl ⟨e, rfl, rfl⟩
  rw [ofRawWith_of_resolved hresolved, ofRawWith_of_resolved hresolved']
  rcases ofRaw_null hkey resolved others with
    ⟨misfit, hstep, hother⟩ | ⟨step, other, hstep, hother, hnulls⟩
  · rw [hstep, hother]
    exact .inl ⟨.badStep misfit, rfl, rfl⟩
  · have hpayload := hdistinct hraw hresolved hstep
    have hpayload' := hdistinct hwithout hresolved' hother
    rw [hstep, hother]
    exact .inr ⟨step, other, rfl, rfl, hpayload, hpayload', hnulls⟩

/-- A step whose member resolves to null runs as the step without that member. -/
theorem runRaw_of_resolved_null (config : Config) (index : Nat)
    (hraw : Members.Distinct (before ++ (key, v) :: after)) (hkey : key ∉ controlNames)
    (hnull : Placeholder.resolve store v = .ok .null) :
    runRaw config index store (before ++ (key, v) :: after) =
      runRaw config index store (before ++ after) := by
  have hget : ∀ name ∈ controlNames, Members.get? name (before ++ (key, v) :: after) =
      Members.get? name (before ++ after) := by
    rintro name hname
    refine Members.get?_append_cons_of_ne ?_ before after v
    rintro rfl
    exact hkey hname
  have hlabel : rawLabel (before ++ (key, v) :: after) index =
      rawLabel (before ++ after) index := by
    unfold rawLabel
    simp only [hget "step" (by decide), hget "step name" (by decide), hget "flow name" (by decide)]
  have hskip : skipRequested store (before ++ (key, v) :: after) =
      skipRequested store (before ++ after) := by
    unfold skipRequested
    rw [hget "skip_step" (by decide)]
  unfold runRaw
  rw [hlabel, hskip]
  rcases ofRawWith_null hraw hkey hnull with
    ⟨e, hwith, hwithout⟩ | ⟨step, other, hwith, hwithout, hstep, hother, hnulls⟩
  · rw [hwith, hwithout]
  · have hperform : perform config index store step = perform config index store other := by
      rw [← perform_withoutNulls config index store hstep, hnulls,
        perform_withoutNulls config index store hother]
    rw [hwith, hwithout]
    simp only [hperform]

/-- A null among the payload of a step is as good as absent: every action of every family is the
same program without it, and a step as written with a member that resolves to null runs as the step
without that member. -/
theorem nulls_absent :
    (∀ step : Step, Members.Distinct step.payload →
      ∀ (family : Family) (config : Config) (action : String),
        family.run config step.withoutNulls action = family.run config step action) ∧
    (∀ (before after : List (String × Value)) (key : String) (v : Value) (store : Store),
      Members.Distinct (before ++ (key, v) :: after) → key ∉ controlNames →
      Placeholder.resolve store v = .ok .null →
        ∀ (config : Config) (index : Nat),
          runRaw config index store (before ++ (key, v) :: after) =
            runRaw config index store (before ++ after)) := by
  refine ⟨?_, ?_⟩
  · intro step hstep family config action
    exact Family.run_congr (sameFields_withoutNulls hstep) family config action
  · intro before after key v store hraw hkey hnull config index
    exact runRaw_of_resolved_null config index hraw hkey hnull

/-- An upload whose key is null. -/
def upload : Step where
  action := "s3upload"
  payload := [("filename", .text "in"), ("key", .null), ("first_bucket_name", .text "b")]

/-- An upload as written, but for its access role. -/
def uploadRaw : RawStep :=
  [("action", .text "s3upload"), ("filename", .text "in"), ("first_bucket_name", .text "b")]

theorem nulls_absent_upload :
    Members.Distinct upload.payload ∧
      Family.cloud.run {} upload.withoutNulls "s3upload" = Family.cloud.run {} upload "s3upload" ∧
      Placeholder.resolve .empty (.text "<<role>>") = .ok .null ∧
      runRaw {} 0 .empty (uploadRaw ++ [("access_role", .text "<<role>>")]) =
        runRaw {} 0 .empty (uploadRaw ++ []) := by
  have hpayload : Members.Distinct upload.payload := by decide
  have hraw : Members.Distinct (uploadRaw ++ ("access_role", .text "<<role>>") :: []) := by decide
  have hkey : "access_role" ∉ controlNames := by decide
  have hnull : Placeholder.resolve .empty (.text "<<role>>") = .ok .null := by rfl
  obtain ⟨hsame, hraws⟩ := nulls_absent
  exact ⟨hpayload, hsame upload hpayload .cloud {} "s3upload", hnull,
    hraws uploadRaw [] "access_role" _ .empty hraw hkey hnull {} 0⟩

end Step

end FlowRunner
