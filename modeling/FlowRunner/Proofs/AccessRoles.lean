import FlowRunner.Proofs.Attempts
import FlowRunner.Proofs.Programs

/-!
# Access roles

A call to the cloud services, or for a secret, is made in an access role or in none. A cloud step
names one role, and that is the role of all its calls: of every poll, of the calls that stop a job
and of those that fetch rows, in the first attempt and in those after it
(`Attempt.calls_in_role`).

* `Program.InRole` is proved along the parts of an operation: no call is made in another role.
* `Program.ActsIn` adds that the operation does not succeed without a call.
-/

namespace FlowRunner

/-- The access role of a call; nothing for an effect that has none. -/
def Effect.role? : Effect → Option (Option String)
  | .fetchSecret _ role => some role
  | .putObject _ _ _ role => some role
  | .getObject _ _ role => some role
  | .submitJob _ role => some role
  | .jobStatus _ role => some role
  | .cancelJob _ _ role => some role
  | .terminateJob _ _ role => some role
  | .invokeFunction _ _ _ role => some role
  | .sendMessages _ _ role => some role
  | .receiveMessages _ _ _ role => some role
  | .startQuery _ role => some role
  | .queryState _ role => some role
  | .queryRows _ role => some role
  | .fetchFirst .. => none
  | .execute .. => none
  | .publish .. => none
  | .subscribe .. => none
  | .nextEvent _ => none
  | .close => none
  | .request _ => none
  | .readFile _ => none
  | .writeFile .. => none
  | .fileKind _ => none
  | .listDirectory _ => none
  | .sleep _ => none

/-- No call is made in another role. -/
def OnlyIn (role : Option String) (log : List Exchange) : Prop :=
  ∀ x ∈ log, ∀ used ∈ x.effect.role?, used = role

theorem onlyIn_append {role : Option String} {log later : List Exchange} (hlog : OnlyIn role log)
    (hlater : OnlyIn role later) : OnlyIn role (log ++ later) :=
  List.forall_mem_append.mpr ⟨hlog, hlater⟩

namespace Program

variable {α β : Type} {role : Option String} {p : Program α} {f : α → Program β}

/-- Whatever the backends reply, no call of the program is made in another role. -/
def InRole (p : Program α) (role : Option String) : Prop :=
  p.run.Ensures fun log _ => OnlyIn role log

/-- In addition, the program does not succeed without a call in the role. -/
def ActsIn (p : Program α) (role : Option String) : Prop :=
  p.run.Ensures fun log outcome =>
    OnlyIn role log ∧ ∀ value, outcome = .ok value → ∃ x ∈ log, x.effect.role? = some role

theorem ActsIn.inRole (h : p.ActsIn role) : p.InRole role :=
  h.mono fun _ _ hlog => hlog.1

theorem inRole_pure (value : α) : InRole (pure value) role :=
  Script.ensures_done (List.forall_mem_nil _)

theorem inRole_bind (hp : p.InRole role) (hf : ∀ value, (f value).InRole role) :
    (p >>= f).InRole role := by
  refine ensures_bind hp (fun log value hlog => ?_) fun _ _ hlog => hlog
  intro σ answer s
  exact onlyIn_append hlog (hf value σ answer s)

theorem inRole_attempt {effect : Effect} (h : effect.role? = some role) :
    (attempt effect).InRole role := by
  intro σ answer s
  refine List.forall_mem_singleton.mpr fun used hused => ?_
  rw [h] at hused
  exact (Option.some.inj hused).symm

theorem inRole_sleep (time : Duration) : (sleep time).InRole role :=
  fun _ _ _ => List.forall_mem_singleton.mpr fun _ hused => nomatch hused

theorem inRole_file (path : String) {q : Script (Except FileError α)}
    (hq : q.Ensures fun log _ => OnlyIn role log) : (file path q).InRole role := by
  refine Script.ensures_bind hq fun log reply hlog => Script.ensures_done ?_
  rwa [List.append_nil]

theorem inRole_fileEffect {effect : Effect} (h : effect.role? = none) :
    (Script.of effect).Ensures fun log _ => OnlyIn role log := by
  intro σ answer s
  refine List.forall_mem_singleton.mpr fun used hused => ?_
  rw [h] at hused
  cases hused

theorem actsIn_fail (failure : Failure) : (fail failure : Program α).ActsIn role :=
  Script.ensures_done ⟨List.forall_mem_nil _, fun _ h => nomatch h⟩

theorem actsIn_backend {q : Script (Except BackendError α)}
    (hq : q.Ensures fun log _ => ∃ x, log = [x] ∧ x.effect.role? = some role) :
    (backend q).ActsIn role := by
  refine Script.ensures_bind hq ?_
  rintro _ reply ⟨x, rfl, hx⟩
  refine Script.ensures_done ⟨?_, fun _ _ => ⟨x, List.mem_singleton_self x, hx⟩⟩
  refine List.forall_mem_singleton.mpr fun used hused => ?_
  rw [hx] at hused
  exact (Option.some.inj hused).symm

theorem ensures_call {effect : Effect} (h : effect.role? = some role) :
    (Script.of effect).Ensures fun log _ => ∃ x, log = [x] ∧ x.effect.role? = some role :=
  fun _ _ _ => ⟨_, rfl, h⟩

/-- After a call in the role, all that matters is that no other role is used. -/
theorem ActsIn.bind (hp : p.ActsIn role) (hf : ∀ value, (f value).InRole role) :
    (p >>= f).ActsIn role := by
  refine ensures_bind hp (fun log value hlog => ?_) fun log failure hlog => ?_
  · obtain ⟨honly, hcalled⟩ := hlog
    obtain ⟨x, hx, hrole⟩ := hcalled value rfl
    intro σ answer s
    exact ⟨onlyIn_append honly (hf value σ answer s), fun _ _ =>
      ⟨x, List.mem_append_left _ hx, hrole⟩⟩
  · exact ⟨hlog.1, fun _ h => nomatch h⟩

theorem actsIn_bind (hp : p.InRole role) (hf : ∀ value, (f value).ActsIn role) :
    (p >>= f).ActsIn role := by
  refine ensures_bind hp (fun log value hlog => ?_) fun log failure hlog => ?_
  · intro σ answer s
    obtain ⟨honly, hcalled⟩ := hf value σ answer s
    refine ⟨onlyIn_append hlog honly, fun result hresult => ?_⟩
    obtain ⟨x, hx, hrole⟩ := hcalled result hresult
    exact ⟨x, List.mem_append_right _ hx, hrole⟩
  · exact ⟨hlog, fun _ h => nomatch h⟩

theorem actsIn_required (step : Step) (key : String) {f : String → Program β}
    (hf : ∀ text, (f text).ActsIn role) : (required step key >>= f).ActsIn role := by
  refine ensures_required_bind (fun text _ => hf text) fun _ => ?_
  exact ⟨List.forall_mem_nil _, fun _ h => nomatch h⟩

end Program

/-! ## The operations -/

namespace Cloud

open Program

theorem upload_actsIn (step : Step) : (upload step).ActsIn (roleOf step) := by
  refine actsIn_required step "filename" fun filename => ?_
  refine actsIn_required step "first_bucket_name" fun bucket => ?_
  refine actsIn_bind (inRole_file filename (inRole_fileEffect rfl)) fun body => ?_
  exact (actsIn_backend (ensures_call rfl)).bind fun _ => inRole_pure _

theorem download_actsIn (step : Step) : (download step).ActsIn (roleOf step) := by
  refine actsIn_required step "bucket" fun bucket => ?_
  refine actsIn_required step "key" fun key => ?_
  refine (actsIn_backend (ensures_call rfl)).bind fun text => ?_
  split
  · exact inRole_bind (inRole_file _ (inRole_fileEffect rfl)) fun _ => inRole_pure _
  · exact inRole_pure _

namespace Batch

theorem stop_inRole (id : String) (role : Option String) (status : String) :
    (stop id role status).InRole role := by
  unfold stop
  split
  · exact inRole_bind (inRole_attempt rfl) fun _ => inRole_pure ()
  · split
    · exact inRole_bind (inRole_attempt rfl) fun _ => inRole_pure ()
    · exact inRole_pure ()

theorem finish_inRole (id expected : String) (role : Option String) (status : String) :
    (poll.finish id expected role status).InRole role :=
  inRole_bind (stop_inRole id role status) fun _ => Script.ensures_done (List.forall_mem_nil _)

theorem poll_inRole (id expected : String) (role : Option String) (interval : Duration)
    (more : Nat) : (poll id expected role interval more).InRole role := by
  induction more with
  | zero =>
    refine ((actsIn_backend (ensures_call rfl)).bind fun status => ?_).inRole
    exact finish_inRole id expected role _
  | succ more ih =>
    refine ((actsIn_backend (ensures_call rfl)).bind fun status => ?_).inRole
    split
    · exact finish_inRole id expected role _
    · exact inRole_bind (inRole_sleep interval) fun _ => ih

theorem run_actsIn (config : Config.Batch) (step : Step) :
    (run config step).ActsIn (roleOf step) := by
  refine actsIn_required step "job_name" fun name => ?_
  refine actsIn_required step "job_queue" fun queue => ?_
  refine actsIn_required step "job_definition" fun definition => ?_
  exact (actsIn_backend (ensures_call rfl)).bind fun id => poll_inRole id _ _ _ _

end Batch

theorem secret_actsIn (step : Step) : (secret step).ActsIn (roleOf step) := by
  refine actsIn_required step "secret_name" fun name => ?_
  exact (actsIn_backend (ensures_call rfl)).bind fun document => inRole_pure _

theorem callFunction_actsIn (step : Step) : (callFunction step).ActsIn (roleOf step) := by
  refine actsIn_required step "function_name" fun name => ?_
  exact actsIn_backend (ensures_call rfl)

theorem sendMessages_actsIn (step : Step) : (sendMessages step).ActsIn (roleOf step) := by
  refine actsIn_required step "queue_name" fun queue => ?_
  exact (actsIn_backend (ensures_call rfl)).bind fun _ => inRole_pure _

theorem receiveMessages_actsIn (config : Config.Queue) (step : Step) :
    (receiveMessages config step).ActsIn (roleOf step) := by
  refine actsIn_required step "queue_name" fun queue => ?_
  exact (actsIn_backend (ensures_call rfl)).bind fun bodies => inRole_pure _

namespace Athena

theorem poll_inRole (id : String) (role : Option String) (interval : Duration) (polls : Nat) :
    (poll id role interval polls).InRole role := by
  induction polls with
  | zero => exact inRole_pure _
  | succ polls ih =>
    refine ((actsIn_backend (ensures_call rfl)).bind fun state => ?_).inRole
    cases state with
    | failed => exact inRole_pure _
    | cancelled => exact inRole_pure _
    | succeeded => exact ((actsIn_backend (ensures_call rfl)).bind fun rows => inRole_pure _).inRole
    | queued => exact inRole_bind (inRole_sleep interval) fun _ => ih
    | running => exact inRole_bind (inRole_sleep interval) fun _ => ih

theorem run_actsIn (config : Config.Athena) (step : Step) :
    (run config step).ActsIn (roleOf step) := by
  refine actsIn_required step "query" fun text => ?_
  refine (actsIn_backend (ensures_call rfl)).bind fun id => ?_
  split
  · exact poll_inRole id _ _ _
  · exact inRole_pure _

end Athena

theorem run_actsIn (config : Config) (step : Step) (action : String) :
    (run config step action).ActsIn (roleOf step) := by
  unfold run
  split
  · exact upload_actsIn step
  · exact download_actsIn step
  · exact Batch.run_actsIn config.batch step
  · exact secret_actsIn step
  · exact callFunction_actsIn step
  · exact sendMessages_actsIn step
  · exact receiveMessages_actsIn config.queue step
  · exact Athena.run_actsIn config.athena step
  · exact actsIn_fail _

theorem roleOf_eq_some_iff {step : Step} {text : String} :
    roleOf step = some text ↔ step.text? "access_role" = some text ∧ text ≠ "" := by
  simp [roleOf, Option.filter_eq_some_iff]

end Cloud

/-! ## All attempts of a step -/

namespace Attempt

variable {σ : Type} {answer : Backends σ}

/-- Repeated attempts end as one of them does, and what this one asks for is part of the history. -/
theorem exists_attempt_of_repeated (answer : Backends σ) (attempt : Script (Except Failure Value))
    (wait : Duration) (more : Nat) (s : σ) :
    ∃ start, (repeated attempt wait more).run answer s = attempt.run answer start ∧
      ∀ x ∈ attempt.history answer start, x ∈ (repeated attempt wait more).history answer s := by
  induction more generalizing s with
  | zero => exact ⟨s, rfl, fun _ hx => hx⟩
  | succ more ih =>
    simp only [repeated, Script.run_bind, Script.history_bind]
    cases houtcome : (attempt.run answer s).1 with
    | ok result =>
      refine ⟨s, ?_, fun x hx => List.mem_append_left _ hx⟩
      rw [Script.run_done, ← houtcome]
    | error failure =>
      dsimp only
      split
      · obtain ⟨start, hrun, hhistory⟩ := ih (paused answer wait (attempt.run answer s).2)
        refine ⟨start, ?_, fun x hx => ?_⟩
        · rw [run_pause, hrun]
        · rw [history_pause]
          exact List.mem_append_right _ (List.mem_append_right _ (hhistory x hx))
      · refine ⟨s, ?_, fun x hx => List.mem_append_left _ hx⟩
        rw [Script.run_done, ← houtcome]

theorem onlyIn_history (config : Config) (step : Step) (action : String) (wait : Duration) (s : σ) :
    OnlyIn (Cloud.roleOf step) ((run config ⟨.cloud, action⟩ step wait).history answer s) := by
  refine history_induction answer (OnlyIn (Cloud.roleOf step)) (List.forall_mem_nil _)
    (fun _ _ => onlyIn_append) ?_ (fun start => ?_) s
  · unfold pauseHistory
    split
    · exact List.forall_mem_nil _
    · exact List.forall_mem_singleton.mpr fun _ h => nomatch h
  · exact (Cloud.run_actsIn config step action).inRole σ answer start

theorem exists_call_of_run {config : Config} {step : Step} {action : String} {wait : Duration}
    {s : σ} {result : Value}
    (h : ((run config ⟨.cloud, action⟩ step wait).run answer s).1 = .ok result) :
    ∃ x ∈ (run config ⟨.cloud, action⟩ step wait).history answer s,
      x.effect.role? = some (Cloud.roleOf step) := by
  obtain ⟨start, hrun, hhistory⟩ := exists_attempt_of_repeated answer
    (once config ⟨.cloud, action⟩ step) wait (allowed step - 1) s
  have honce : ((once config ⟨.cloud, action⟩ step).run answer start).1 = .ok result := by
    rw [← hrun]
    exact h
  rw [run_once] at honce
  rw [history_once] at hhistory
  cases hreply : ((invocation config ⟨.cloud, action⟩ step).run answer start).1 with
  | error failure =>
    rw [hreply] at honce
    cases honce
  | ok value =>
    obtain ⟨x, hx, hrole⟩ := (Cloud.run_actsIn config step action σ answer start).2 value hreply
    exact ⟨x, hhistory x hx, hrole⟩

/-- All calls of a cloud step, in all its attempts, are made in one access role: the one that the
step names, if it does. The step does not succeed without such a call. -/
theorem calls_in_role (answer : Backends σ) (config : Config) (step : Step) (action : String)
    (wait : Duration) (s : σ) :
    ∃ role, (∀ text, role = some text ↔ step.text? "access_role" = some text ∧ text ≠ "") ∧
      (∀ x ∈ (run config ⟨.cloud, action⟩ step wait).history answer s,
        ∀ used ∈ x.effect.role?, used = role) ∧
      ∀ result, ((run config ⟨.cloud, action⟩ step wait).run answer s).1 = .ok result →
        ∃ x ∈ (run config ⟨.cloud, action⟩ step wait).history answer s,
          x.effect.role? = some role := by
  refine ⟨Cloud.roleOf step, fun text => Cloud.roleOf_eq_some_iff, ?_, fun result hresult => ?_⟩
  · exact onlyIn_history config step action wait s
  · exact exists_call_of_run hresult

/-- A step that waits for a report as an auditor, and tries again when the report is not final. -/
def auditStep : Step where
  action := "athena"
  retry := 1
  expected := some (.list [.object [("state", .text "final")]])
  payload := [("query", .text "select state from reports"), ("wait", .bool true),
    ("access_role", .text "auditor")]

/-- A stage on which queries run for a while, with a report that is a draft. -/
def draftStage : Stage :=
  { Stage.empty with cloud := some ⟨[], [], "", [], .null, [], [.queued, .running, .succeeded],
      [[some "state"], [some "draft"]]⟩ }

/-- What the step asks for on that stage. -/
def auditHistory : List Exchange :=
  (run {} ⟨.cloud, "athena"⟩ auditStep .zero).history Stage.answer draftStage

theorem calls_in_role_audit :
    (auditHistory.filterMap fun x => x.effect.role?).length = 8 ∧
      ∀ x ∈ auditHistory, ∀ used ∈ x.effect.role?, used = some "auditor" := by
  obtain ⟨role, hrole, hcalls, -⟩ :=
    calls_in_role Stage.answer {} auditStep "athena" .zero draftStage
  have hnamed : role = some "auditor" := (hrole "auditor").mpr ⟨rfl, by decide⟩
  refine ⟨by decide +kernel, ?_⟩
  rw [← hnamed]
  exact hcalls

end Attempt

end FlowRunner
