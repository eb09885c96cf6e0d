import FlowRunner.Operation.Dispatch
import FlowRunner.Proofs.Programs

/-!
# Failures of operations

Which failures an operation can end in, whatever the backends reply (`Family.run_failsOnly`): those
of its backends and files, of its parameters and its configuration, a wrong status, the end of its
time, and an action that its family does not own. It never ends in a failure of a workflow's text,
of placeholders or of validation, nor in one that has a label.

An operation first looks at what it was given and then does its work. It refuses a step only before
that work: at most a database has been asked for a secret by then (`Family.run_refusesEarly`).

`Program.FailsOnly` is proved along the work of an operation and `Program.RefusesEarly` along the
checks before it, by the lemmas of their parts.
-/

namespace FlowRunner

/-- A failure that an operation can end in by itself. -/
def Failure.OfOperation (family : Family) (action : String) : Failure → Prop
  | .backend _ => True
  | .missingParameter _ => True
  | .invalidParameter _ => True
  | .status .. => True
  | .timeout _ => True
  | .file .. => True
  | .config _ => True
  | .routing e => e = .unsupported family action ∧ action ∉ family.owned
  | .yaml _ => False
  | .json _ => False
  | .resolve _ => False
  | .mismatch _ => False
  | .step .. => False

namespace Failure

/-- A failure of the work of an operation. -/
def OfWork : Failure → Prop
  | .backend _ => True
  | .status .. => True
  | .timeout _ => True
  | .file .. => True
  | _ => False

/-- A failure by which an operation refuses a step. -/
def OfRefusal (family : Family) (action : String) : Failure → Prop
  | .missingParameter _ => True
  | .invalidParameter _ => True
  | .config _ => True
  | .routing e => e = .unsupported family action ∧ action ∉ family.owned
  | _ => False

theorem OfWork.ofOperation {failure : Failure} (h : failure.OfWork) (family : Family)
    (action : String) : failure.OfOperation family action := by
  cases failure <;> trivial

theorem OfRefusal.ofOperation {failure : Failure} {family : Family} {action : String}
    (h : failure.OfRefusal family action) : failure.OfOperation family action := by
  cases failure <;> trivial

end Failure

/-- What a family may have asked for when it refuses a step: nothing, or a secret for a database. -/
def Family.Preliminary (family : Family) (log : List Exchange) : Prop :=
  log = [] ∨ family = .database ∧ ∃ name role reply, log = [⟨.fetchSecret name role, reply⟩]

namespace Program

variable {α β : Type} {P : Failure → Prop} {family : Family} {action : String}

/-! ## Outcomes -/

/-- The outcome is a value, or a failure of some kind. -/
def ErrorsOnly (outcome : Except Failure α) (P : Failure → Prop) : Prop :=
  ∀ failure, outcome = .error failure → P failure

theorem errorsOnly_ok (value : α) : ErrorsOnly (.ok value) P :=
  fun _ h => nomatch h

theorem errorsOnly_error {failure : Failure} (h : P failure) :
    ErrorsOnly (.error failure : Except Failure α) P :=
  fun _ hfailure => Except.error.inj hfailure ▸ h

theorem errorsOnly_bind {outcome : Except Failure α} {f : α → Except Failure β}
    (hx : ErrorsOnly outcome P) (hf : ∀ value, ErrorsOnly (f value) P) :
    ErrorsOnly (outcome >>= f) P := by
  cases outcome with
  | ok value => exact hf value
  | error failure => exact errorsOnly_error (hx failure rfl)

/-! ## Parts of programs -/

/-- Whatever the backends reply, the program fails only in some ways. -/
def FailsOnly (p : Program α) (P : Failure → Prop) : Prop :=
  Script.Ensures p.run fun _ outcome => ErrorsOnly outcome P

theorem failsOnly_mk {outcome : Except Failure α} (h : ErrorsOnly outcome P) :
    FailsOnly (ExceptT.mk (.done outcome)) P :=
  Script.ensures_done h

theorem failsOnly_pure (value : α) : FailsOnly (pure value : Program α) P :=
  failsOnly_mk (errorsOnly_ok value)

theorem failsOnly_fail {failure : Failure} (h : P failure) :
    FailsOnly (fail failure : Program α) P :=
  failsOnly_mk (errorsOnly_error h)

theorem failsOnly_bind {p : Program α} {f : α → Program β} (hp : p.FailsOnly P)
    (hf : ∀ value, (f value).FailsOnly P) : (p >>= f).FailsOnly P :=
  ensures_bind hp (fun _ value _ => hf value) fun _ failure houtcome =>
    errorsOnly_error (houtcome failure rfl)

theorem failsOnly_backend (p : Script (Except BackendError α)) (h : ∀ e, P (.backend e)) :
    FailsOnly (backend p) P := by
  refine Script.ensures_bind (Script.ensures_true _) fun _ reply _ => ?_
  cases reply with
  | ok value => exact failsOnly_pure value
  | error e => exact failsOnly_fail (h e)

theorem failsOnly_file (path : String) (p : Script (Except FileError α))
    (h : ∀ text, P (.file path text)) : FailsOnly (file path p) P := by
  refine Script.ensures_bind (Script.ensures_true _) fun _ reply _ => ?_
  cases reply with
  | ok value => exact failsOnly_pure value
  | error e => exact failsOnly_fail (h e.message)

theorem failsOnly_script (p : Script α) : FailsOnly (script p) P :=
  Script.ensures_bind (Script.ensures_true _) fun _ value _ =>
    failsOnly_pure value

theorem failsOnly_attempt (effect : Effect) : FailsOnly (attempt effect) P :=
  failsOnly_script (.of effect)

/-! ## Checks before the work -/

/-- Whatever the backends reply, the program refuses only early and fails otherwise only by its
work. -/
def RefusesEarly (p : Program α) (family : Family) (action : String) : Prop :=
  Script.Ensures p.run fun log outcome => ErrorsOnly outcome fun failure =>
    failure.OfWork ∨ failure.OfRefusal family action ∧ family.Preliminary log

theorem RefusesEarly.failsOnly {p : Program α} (h : p.RefusesEarly family action) :
    p.FailsOnly (Failure.OfOperation family action) := by
  intro σ answer s failure hfailure
  rcases h σ answer s failure hfailure with hwork | ⟨hrefusal, -⟩
  · exact hwork.ofOperation family action
  · exact hrefusal.ofOperation

theorem FailsOnly.refusesEarly {p : Program α} (h : p.FailsOnly Failure.OfWork) :
    p.RefusesEarly family action :=
  fun σ answer s failure hfailure => .inl (h σ answer s failure hfailure)

theorem refusesEarly_mk {outcome : Except Failure α}
    (h : ErrorsOnly outcome (Failure.OfRefusal family action)) :
    RefusesEarly (ExceptT.mk (.done outcome)) family action :=
  Script.ensures_done fun failure hfailure => .inr ⟨h failure hfailure, .inl rfl⟩

theorem refusesEarly_fail {failure : Failure} (h : failure.OfRefusal family action) :
    RefusesEarly (fail failure : Program α) family action :=
  refusesEarly_mk (errorsOnly_error h)

theorem refusesEarly_mk_bind {outcome : Except Failure α} {f : α → Program β}
    (h : ErrorsOnly outcome (Failure.OfRefusal family action))
    (hf : ∀ value, (f value).RefusesEarly family action) :
    RefusesEarly ((ExceptT.mk (.done outcome) : Program α) >>= f) family action :=
  ensures_mk_bind (fun value _ => hf value) fun failure hfailure =>
    errorsOnly_error (.inr ⟨h failure hfailure, .inl rfl⟩)

theorem refusesEarly_need {value : Option α} {failure : Failure} {f : α → Program β}
    (h : failure.OfRefusal family action) (hf : ∀ v, (f v).RefusesEarly family action) :
    (need value failure >>= f).RefusesEarly family action := by
  cases value with
  | some v => exact hf v
  | none => exact refusesEarly_fail h

theorem refusesEarly_required (step : Step) (key : String) {f : String → Program β}
    (hf : ∀ text, (f text).RefusesEarly family action) :
    (required step key >>= f).RefusesEarly family action :=
  refusesEarly_need trivial hf

/-- What refuses early may be followed by work. -/
theorem RefusesEarly.bind_work {p : Program α} {f : α → Program β}
    (hp : p.RefusesEarly family action) (hf : ∀ value, (f value).FailsOnly Failure.OfWork) :
    (p >>= f).RefusesEarly family action := by
  refine ensures_bind hp (fun log value _ => ?_) fun log failure houtcome => ?_
  · intro σ answer s failure hfailure
    exact .inl (hf value σ answer s failure hfailure)
  · exact errorsOnly_error (houtcome failure rfl)

end Program

open Program

variable {action : String}

/-! ## Interfaces and files -/

namespace Api

theorem send_failsOnly (step : Step) (method url : String) (headers : List (String × Value))
    (body : Option Value) : (send step method url headers body).FailsOnly Failure.OfWork := by
  refine failsOnly_bind (failsOnly_backend _ fun e => trivial) fun response => ?_
  dsimp only
  split
  · exact failsOnly_pure _
  · exact failsOnly_fail trivial

theorem sendBody_refusesEarly (step : Step) (method : String) :
    (sendBody step method).RefusesEarly .api action :=
  refusesEarly_required step "end point" fun _ => (send_failsOnly step method _ _ _).refusesEarly

theorem graphql_refusesEarly (step : Step) : (graphql step).RefusesEarly .api action := by
  refine refusesEarly_need trivial fun body => ?_
  refine refusesEarly_required step "end point" fun url => ?_
  exact (send_failsOnly step "POST" url _ _).refusesEarly

theorem run_refusesEarly (step : Step) (action : String) :
    (run step action).RefusesEarly .api action := by
  unfold run
  split
  · refine refusesEarly_required step "end point" fun url => ?_
    exact (send_failsOnly step "GET" _ _ _).refusesEarly
  · exact sendBody_refusesEarly step "POST"
  · exact sendBody_refusesEarly step "PUT"
  · exact sendBody_refusesEarly step "PATCH"
  · exact sendBody_refusesEarly step "DELETE"
  · exact graphql_refusesEarly step
  · refine refusesEarly_fail ⟨rfl, ?_⟩
    simp_all [Family.owned, Family.actions]

end Api

namespace TextFile

theorem run_refusesEarly (step : Step) (action : String) :
    (run step action).RefusesEarly .file action := by
  unfold run
  split
  · refine refusesEarly_required step "filename" fun path => FailsOnly.refusesEarly ?_
    exact failsOnly_bind (failsOnly_file path _ fun text => trivial) fun text => failsOnly_pure _
  · refine refusesEarly_required step "filename" fun path => FailsOnly.refusesEarly ?_
    exact failsOnly_bind (failsOnly_file path _ fun text => trivial) fun _ => failsOnly_pure _
  · refine refusesEarly_fail ⟨rfl, ?_⟩
    simp_all [Family.owned, Family.actions]

end TextFile

/-! ## Events -/

namespace Event

theorem publish_refusesEarly (step : Step) : (publish step).RefusesEarly .messaging action := by
  refine refusesEarly_required step "topic" fun topic => FailsOnly.refusesEarly ?_
  exact failsOnly_bind (failsOnly_backend _ fun e => trivial) fun _ => failsOnly_pure _

theorem resultOf_errorsOnly (topic : String) (heard : Except BackendError Heard) :
    ErrorsOnly (resultOf topic heard) Failure.OfWork := by
  unfold resultOf
  split
  · exact errorsOnly_ok _
  · exact errorsOnly_error trivial
  · exact errorsOnly_error trivial
  · exact errorsOnly_error trivial

theorem await_refusesEarly (config : Config.Kafka) (step : Step) :
    (await config step).RefusesEarly .messaging action := by
  refine refusesEarly_required step "topic" fun topic => FailsOnly.refusesEarly ?_
  refine failsOnly_bind (failsOnly_backend _ fun e => trivial) fun _ => ?_
  refine failsOnly_bind (failsOnly_script _) fun heard => ?_
  refine failsOnly_bind (failsOnly_attempt .close) fun _ => ?_
  exact failsOnly_mk (resultOf_errorsOnly topic heard)

theorem run_refusesEarly (config : Config.Kafka) (step : Step) (action : String) :
    (run config step action).RefusesEarly .messaging action := by
  unfold run
  split
  · exact publish_refusesEarly step
  · exact await_refusesEarly config step
  · refine refusesEarly_fail ⟨rfl, ?_⟩
    simp_all [Family.owned, Family.actions]

end Event

/-! ## Databases -/

namespace Sql

theorem conditions_errorsOnly (sql : Sql) :
    ErrorsOnly sql.conditions (Failure.OfRefusal .database action) := by
  unfold conditions
  split
  · exact errorsOnly_ok _
  · exact errorsOnly_error trivial

theorem filter_errorsOnly (sql : Sql) :
    ErrorsOnly sql.filter (Failure.OfRefusal .database action) := by
  refine errorsOnly_bind (conditions_errorsOnly sql) fun conditions => ?_
  split <;> exact errorsOnly_ok _

theorem requiredFilter_errorsOnly (sql : Sql) :
    ErrorsOnly sql.requiredFilter (Failure.OfRefusal .database action) := by
  unfold requiredFilter
  split
  · exact errorsOnly_error trivial
  · exact filter_errorsOnly sql

theorem assignments_errorsOnly (sql : Sql) :
    ErrorsOnly sql.assignments (Failure.OfRefusal .database action) := by
  unfold assignments
  split
  · split
    · exact errorsOnly_error trivial
    · exact errorsOnly_ok _
  · exact errorsOnly_error trivial

theorem statementOn_errorsOnly (sql : Sql) (table action : String) :
    ErrorsOnly (sql.statementOn table action) (Failure.OfRefusal .database action) := by
  unfold statementOn
  split
  · exact errorsOnly_bind (filter_errorsOnly sql) fun clause => errorsOnly_ok _
  · exact errorsOnly_bind (filter_errorsOnly sql) fun clause => errorsOnly_ok _
  · split
    · exact errorsOnly_ok _
    · exact errorsOnly_error trivial
  · refine errorsOnly_bind (assignments_errorsOnly sql) fun assignments => ?_
    exact errorsOnly_bind (requiredFilter_errorsOnly sql) fun clause => errorsOnly_ok _
  · exact errorsOnly_bind (requiredFilter_errorsOnly sql) fun clause => errorsOnly_ok _
  · refine errorsOnly_error ⟨rfl, ?_⟩
    simp_all [Family.owned, Family.actions]

theorem statement_errorsOnly (sql : Sql) (action : String) :
    ErrorsOnly (sql.statement action) (Failure.OfRefusal .database action) := by
  unfold statement
  split
  · exact errorsOnly_error trivial
  · exact statementOn_errorsOnly sql _ action

theorem entry_errorsOnly (name : String) (secret : List (String × Value)) (key : String) :
    ErrorsOnly (entry name secret key) (Failure.OfRefusal .database action) := by
  unfold entry
  split
  · exact errorsOnly_ok _
  · exact errorsOnly_error trivial

theorem connectionFrom_errorsOnly (sql : Sql) (name : String) (secret : List (String × Value)) :
    ErrorsOnly (sql.connectionFrom name secret) (Failure.OfRefusal .database action) := by
  unfold connectionFrom
  split
  · refine errorsOnly_bind (entry_errorsOnly name secret _) fun host => ?_
    refine errorsOnly_bind (entry_errorsOnly name secret _) fun user => ?_
    exact errorsOnly_bind (entry_errorsOnly name secret _) fun password => errorsOnly_ok _
  · split
    · exact errorsOnly_error trivial
    · refine errorsOnly_bind (entry_errorsOnly name secret _) fun user => ?_
      exact errorsOnly_bind (entry_errorsOnly name secret _) fun password => errorsOnly_ok _

/-- The secret is asked for before it can be refused, and nothing else is. -/
theorem connection_refusesEarly (sql : Sql) (config : Config.Database) :
    (sql.connection config).RefusesEarly .database action := by
  refine ensures_backend_bind (Script.ensures_of _) ?_ ?_
  · rintro _ secret rfl
    refine Script.ensures_done fun failure hfailure => .inr ⟨?_, .inr ⟨rfl, _, _, _, rfl⟩⟩
    exact connectionFrom_errorsOnly sql _ secret failure hfailure
  · rintro _ e rfl
    exact errorsOnly_error (.inl trivial)

theorem run_refusesEarly (config : Config.Database) (step : Step) (action : String) :
    (run config step action).RefusesEarly .database action := by
  refine refusesEarly_mk_bind (statement_errorsOnly (ofStep step) action) fun text => ?_
  refine (connection_refusesEarly (ofStep step) config).bind_work fun connection => ?_
  split
  · exact failsOnly_bind (failsOnly_backend _ fun e => trivial) fun row => failsOnly_pure _
  · exact failsOnly_bind (failsOnly_backend _ fun e => trivial) fun summary => failsOnly_pure _

end Sql

/-! ## Cloud services -/

namespace Cloud

theorem upload_refusesEarly (step : Step) : (upload step).RefusesEarly .cloud action := by
  refine refusesEarly_required step "filename" fun filename => ?_
  refine refusesEarly_required step "first_bucket_name" fun bucket => FailsOnly.refusesEarly ?_
  refine failsOnly_bind (failsOnly_file filename _ fun text => trivial) fun body => ?_
  exact failsOnly_bind (failsOnly_backend _ fun e => trivial) fun _ => failsOnly_pure _

theorem download_refusesEarly (step : Step) : (download step).RefusesEarly .cloud action := by
  refine refusesEarly_required step "bucket" fun bucket => ?_
  refine refusesEarly_required step "key" fun key => FailsOnly.refusesEarly ?_
  refine failsOnly_bind (failsOnly_backend _ fun e => trivial) fun text => ?_
  split
  · exact failsOnly_bind (failsOnly_file _ _ fun text => trivial) fun _ => failsOnly_pure _
  · exact failsOnly_pure _

namespace Batch

theorem stop_failsOnly (id : String) (role : Option String) (status : String) :
    (stop id role status).FailsOnly Failure.OfWork := by
  unfold stop
  split
  · exact failsOnly_bind (failsOnly_attempt _) fun _ => failsOnly_pure ()
  · split
    · exact failsOnly_bind (failsOnly_attempt _) fun _ => failsOnly_pure ()
    · exact failsOnly_pure ()

theorem resultOf_errorsOnly (id expected status : String) :
    ErrorsOnly (resultOf id expected status) Failure.OfWork := by
  unfold resultOf
  split
  · exact errorsOnly_ok _
  · exact errorsOnly_error trivial

theorem finish_failsOnly (id expected : String) (role : Option String) (status : String) :
    (poll.finish id expected role status).FailsOnly Failure.OfWork := by
  refine failsOnly_bind (stop_failsOnly id role status) fun _ => ?_
  exact failsOnly_mk (resultOf_errorsOnly id expected status)

theorem poll_failsOnly (id expected : String) (role : Option String) (interval : Duration)
    (more : Nat) : (poll id expected role interval more).FailsOnly Failure.OfWork := by
  induction more with
  | zero =>
    exact failsOnly_bind (failsOnly_backend _ fun e => trivial) fun status =>
      finish_failsOnly id expected role _
  | succ more ih =>
    refine failsOnly_bind (failsOnly_backend _ fun e => trivial) fun status => ?_
    split
    · exact finish_failsOnly id expected role _
    · exact failsOnly_bind (failsOnly_attempt (.sleep interval)) fun _ => ih

theorem run_refusesEarly (config : Config.Batch) (step : Step) :
    (run config step).RefusesEarly .cloud action := by
  refine refusesEarly_required step "job_name" fun name => ?_
  refine refusesEarly_required step "job_queue" fun queue => ?_
  refine refusesEarly_required step "job_definition" fun definition => FailsOnly.refusesEarly ?_
  refine failsOnly_bind (failsOnly_backend _ fun e => trivial) fun id => ?_
  exact poll_failsOnly id _ _ _ _

end Batch

theorem secret_refusesEarly (step : Step) : (secret step).RefusesEarly .cloud action := by
  refine refusesEarly_required step "secret_name" fun name => FailsOnly.refusesEarly ?_
  exact failsOnly_bind (failsOnly_backend _ fun e => trivial) fun document => failsOnly_pure _

theorem callFunction_refusesEarly (step : Step) :
    (callFunction step).RefusesEarly .cloud action := by
  refine refusesEarly_required step "function_name" fun name => FailsOnly.refusesEarly ?_
  exact failsOnly_backend _ fun e => trivial

theorem sendMessages_refusesEarly (step : Step) :
    (sendMessages step).RefusesEarly .cloud action := by
  refine refusesEarly_required step "queue_name" fun queue => FailsOnly.refusesEarly ?_
  exact failsOnly_bind (failsOnly_backend _ fun e => trivial) fun _ => failsOnly_pure _

theorem receiveMessages_refusesEarly (config : Config.Queue) (step : Step) :
    (receiveMessages config step).RefusesEarly .cloud action := by
  refine refusesEarly_required step "queue_name" fun queue => FailsOnly.refusesEarly ?_
  exact failsOnly_bind (failsOnly_backend _ fun e => trivial) fun bodies => failsOnly_pure _

namespace Athena

theorem poll_failsOnly (id : String) (role : Option String) (interval : Duration) (polls : Nat) :
    (poll id role interval polls).FailsOnly Failure.OfWork := by
  induction polls with
  | zero => exact failsOnly_pure _
  | succ polls ih =>
    refine failsOnly_bind (failsOnly_backend _ fun e => trivial) fun state => ?_
    cases state with
    | failed => exact failsOnly_pure _
    | cancelled => exact failsOnly_pure _
    | succeeded =>
      exact failsOnly_bind (failsOnly_backend _ fun e => trivial) fun rows => failsOnly_pure _
    | queued => exact failsOnly_bind (failsOnly_attempt (.sleep interval)) fun _ => ih
    | running => exact failsOnly_bind (failsOnly_attempt (.sleep interval)) fun _ => ih

theorem run_refusesEarly (config : Config.Athena) (step : Step) :
    (run config step).RefusesEarly .cloud action := by
  refine refusesEarly_required step "query" fun text => FailsOnly.refusesEarly ?_
  refine failsOnly_bind (failsOnly_backend _ fun e => trivial) fun id => ?_
  split
  · exact poll_failsOnly id _ _ _
  · exact failsOnly_pure _

end Athena

theorem run_refusesEarly (config : Config) (step : Step) (action : String) :
    (run config step action).RefusesEarly .cloud action := by
  unfold run
  split
  · exact upload_refusesEarly step
  · exact download_refusesEarly step
  · exact Batch.run_refusesEarly config.batch step
  · exact secret_refusesEarly step
  · exact callFunction_refusesEarly step
  · exact sendMessages_refusesEarly step
  · exact receiveMessages_refusesEarly config.queue step
  · exact Athena.run_refusesEarly config.athena step
  · refine refusesEarly_fail ⟨rfl, ?_⟩
    simp_all [Family.owned, Family.actions]

end Cloud

/-- An operation refuses a step before its work, if it does. -/
theorem Family.run_refusesEarly (family : Family) (config : Config) (step : Step)
    (action : String) : (family.run config step action).RefusesEarly family action := by
  cases family with
  | api => exact Api.run_refusesEarly step action
  | database => exact Sql.run_refusesEarly config.database step action
  | file => exact TextFile.run_refusesEarly step action
  | cloud => exact Cloud.run_refusesEarly config step action
  | messaging => exact Event.run_refusesEarly config.kafka step action

/-- An operation ends in a failure of its own, if it fails. -/
theorem Family.run_failsOnly (family : Family) (config : Config) (step : Step) (action : String) :
    (family.run config step action).FailsOnly (Failure.OfOperation family action) :=
  (family.run_refusesEarly config step action).failsOnly

end FlowRunner
