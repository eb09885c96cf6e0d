import FlowRunner.Proofs.Attempts
import FlowRunner.Proofs.Programs

/-!
# Batch jobs

A batch step submits a job in every attempt and watches it until it has settled or the time is up.
Whether it may turn away from the job then is decided by the last poll alone: a job is seen through,
or stopped, exactly when the last poll has told a state that is known
(`Cloud.Batch.jobs_attended_iff`). A poll that fails, or tells no state when the time is up, leaves
the job as it is (`Cloud.Batch.throttled_leaves_job`), and the next attempt submits another one.

The histories are described by two relations, one for what follows a submission (`Watch`) and one
for a whole step (`Course`).
-/

namespace FlowRunner

namespace Exchange

/-- The job that was submitted. -/
def submitted? : Exchange → Option String
  | ⟨.submitJob _ _, .ok id⟩ => some id
  | _ => none

/-- Whether a job was to be submitted. -/
def submits : Exchange → Bool
  | ⟨.submitJob _ _, _⟩ => true
  | _ => false

/-- What a poll of a job told. -/
def polled? (id : String) : Exchange → Option (Except BackendError (Option String))
  | ⟨.jobStatus other _, reply⟩ => if other = id then some reply else none
  | _ => none

/-- Whether a job was to be cancelled or terminated. -/
def stops (id : String) : Exchange → Bool
  | ⟨.cancelJob other _ _, _⟩ => other == id
  | ⟨.terminateJob other _ _, _⟩ => other == id
  | _ => false

end Exchange

namespace Cloud.Batch

/-! ## What becomes of the jobs of a step -/

/-- The jobs that were submitted, each with what was asked for until the next submission. -/
def jobs : List Exchange → List (String × List Exchange)
  | [] => []
  | x :: rest =>
    match x.submitted? with
    | some id => (id, rest.takeWhile fun y => !y.submits) :: jobs rest
    | none => jobs rest

/-- The replies to the polls of a job. -/
def polls (id : String) (log : List Exchange) : List (Except BackendError (Option String)) :=
  log.filterMap (Exchange.polled? id)

/-- The last state that a job was seen in. -/
def lastSeen? (id : String) (log : List Exchange) : Option String :=
  ((polls id log).filterMap fun reply => reply.toOption.join).getLast?

/-- Whether a job was seen to settle, or asked to be stopped. -/
def Attended (id : String) (log : List Exchange) : Prop :=
  (∃ status ∈ settled, lastSeen? id log = some status) ∨ ∃ x ∈ log, x.stops id = true

instance (id : String) (log : List Exchange) : Decidable (Attended id log) :=
  inferInstanceAs (Decidable (_ ∨ _))

/-! ## The history of an attempt -/

/-- What is asked for to stop a job in a state. -/
inductive Parting (id : String) (role : Option String) (status : String) : List Exchange → Prop
  | cancelled (hstatus : status ∈ waiting) (reply : Except BackendError Unit) :
    Parting id role status [⟨.cancelJob id "Cancelling job due to timeout" role, reply⟩]
  | terminated (hstatus : status ∈ running) (reply : Except BackendError Unit) :
    Parting id role status [⟨.terminateJob id "Terminating job due to timeout" role, reply⟩]
  | left (hwaiting : status ∉ waiting) (hrunning : status ∉ running) : Parting id role status []

/-- What is asked for after a job has been submitted. -/
inductive Watch (id : String) (role : Option String) (interval : Duration) : List Exchange → Prop
  | lost (e : BackendError) : Watch id role interval [⟨.jobStatus id role, .error e⟩]
  | ended {status : Option String} {log : List Exchange}
    (hparting : Parting id role (status.getD "") log) :
    Watch id role interval (⟨.jobStatus id role, .ok status⟩ :: log)
  | again {status : Option String} {log : List Exchange} (hopen : status.getD "" ∉ settled)
    (hrest : Watch id role interval log) :
    Watch id role interval (⟨.jobStatus id role, .ok status⟩ :: ⟨.sleep interval, ()⟩ :: log)

/-- What a batch step asks for in all its attempts. -/
inductive Course : List Exchange → Prop
  | nil : Course []
  | pause {log : List Exchange} (time : Duration) (hrest : Course log) :
    Course (⟨.sleep time, ()⟩ :: log)
  | refused {log : List Exchange} (job : BatchJob) (role : Option String) (e : BackendError)
    (hrest : Course log) : Course (⟨.submitJob job role, .error e⟩ :: log)
  | submitted {log watch : List Exchange} {job : BatchJob} {role : Option String} {id : String}
    {interval : Duration} (hwatch : Watch id role interval watch) (hrest : Course log) :
    Course (⟨.submitJob job role, .ok id⟩ :: (watch ++ log))

theorem Course.append {log later : List Exchange} (h : Course log) (hlater : Course later) :
    Course (log ++ later) := by
  induction h with
  | nil => exact hlater
  | pause time hrest ih => exact .pause time ih
  | refused job role e hrest ih => exact .refused job role e ih
  | submitted hwatch hrest ih =>
    rw [List.cons_append, List.append_assoc]
    exact .submitted hwatch ih

theorem stop_ensures (id : String) (role : Option String) (status : String) :
    (stop id role status).run.Ensures fun log outcome =>
      Parting id role status log ∧ outcome = .ok () := by
  unfold stop
  split
  · rename_i hwaiting
    refine Program.ensures_attempt_bind fun reply => Script.ensures_done ?_
    exact ⟨.cancelled (List.contains_iff_mem.mp hwaiting) reply, rfl⟩
  · rename_i hwaiting
    split
    · rename_i hrunning
      refine Program.ensures_attempt_bind fun reply => Script.ensures_done ?_
      exact ⟨.terminated (List.contains_iff_mem.mp hrunning) reply, rfl⟩
    · rename_i hrunning
      exact Script.ensures_done
        ⟨.left (mt List.contains_iff_mem.mpr hwaiting) (mt List.contains_iff_mem.mpr hrunning), rfl⟩

theorem poll_ensures (id expected : String) (role : Option String) (interval : Duration)
    (more : Nat) :
    (poll id expected role interval more).run.Ensures fun log _ => Watch id role interval log := by
  have hfinish : ∀ status : Option String,
      (poll.finish id expected role (status.getD "")).run.Ensures fun later _ =>
        Watch id role interval ([⟨.jobStatus id role, .ok status⟩] ++ later) := by
    intro status
    refine Program.ensures_bind (stop_ensures id role _) ?_ ?_
    · rintro log _ ⟨hparting, -⟩
      refine Script.ensures_done ?_
      rw [List.append_nil]
      exact .ended hparting
    · rintro log failure ⟨-, hfailure⟩
      cases hfailure
  induction more with
  | zero =>
    refine Program.ensures_backend_bind (Script.ensures_of (.jobStatus id role)) ?_ ?_
    · rintro log status rfl
      exact hfinish status
    · rintro log e rfl
      exact .lost e
  | succ more ih =>
    refine Program.ensures_backend_bind (Script.ensures_of (.jobStatus id role)) ?_ ?_
    · rintro log status rfl
      split
      · exact hfinish status
      · rename_i hopen
        refine Program.ensures_attempt_bind fun reply => ?_
        intro σ answer s
        exact .again (mt List.contains_iff_mem.mpr hopen) (ih σ answer s)
    · rintro log e rfl
      exact .lost e

theorem run_ensures (config : Config.Batch) (step : Step) :
    (run config step).run.Ensures fun log _ => Course log := by
  refine Program.ensures_required_bind (fun name _ => ?_) fun _ => .nil
  refine Program.ensures_required_bind (fun queue _ => ?_) fun _ => .nil
  refine Program.ensures_required_bind (fun definition _ => ?_) fun _ => .nil
  refine Program.ensures_backend_bind (Script.ensures_of _) ?_ ?_
  · rintro log id rfl
    refine (poll_ensures id _ _ _ _).mono fun watch _ hwatch => ?_
    have hcourse : Course (⟨.submitJob ⟨name, queue, definition, commandOf step⟩ (roleOf step),
        .ok id⟩ :: (watch ++ [])) := .submitted hwatch .nil
    rwa [List.append_nil] at hcourse
  · rintro log e rfl
    exact .refused _ _ e .nil

theorem course_of_run {σ : Type} (answer : Backends σ) (config : Config) (step : Step)
    (wait : Duration) (s : σ) :
    Course ((Attempt.run config ⟨.cloud, "batch"⟩ step wait).history answer s) := by
  refine Attempt.history_induction answer Course .nil (fun _ _ => Course.append) ?_ ?_ s
  · unfold Attempt.pauseHistory
    split
    · exact .nil
    · exact .pause wait .nil
  · intro start
    exact run_ensures config.batch step σ answer start

/-! ## The jobs of a history -/

/-- Whether nothing but time passes. -/
def OnlyPauses (log : List Exchange) : Prop :=
  ∀ x ∈ log, ∃ time, x = ⟨.sleep time, ()⟩

theorem jobs_append {log : List Exchange} (h : ∀ x ∈ log, x.submits = false)
    (later : List Exchange) : jobs (log ++ later) = jobs later := by
  induction log with
  | nil => rfl
  | cons x rest ih =>
    obtain ⟨hx, hrest⟩ := List.forall_mem_cons.mp h
    have hnone : x.submitted? = none := by
      unfold Exchange.submitted?
      split
      · cases hx
      · rfl
    rw [List.cons_append, jobs, hnone]
    exact ih hrest

theorem Parting.submits {id status : String} {role : Option String} {log : List Exchange}
    (h : Parting id role status log) : ∀ x ∈ log, x.submits = false := by
  cases h <;> simp [Exchange.submits]

theorem Watch.submits {id : String} {role : Option String} {interval : Duration}
    {log : List Exchange} (h : Watch id role interval log) : ∀ x ∈ log, x.submits = false := by
  induction h with
  | lost e => simp [Exchange.submits]
  | ended hparting => exact List.forall_mem_cons.mpr ⟨rfl, hparting.submits⟩
  | again hopen hrest ih =>
    exact List.forall_mem_cons.mpr ⟨rfl, List.forall_mem_cons.mpr ⟨rfl, ih⟩⟩

/-- Between two submissions, after a job is no longer watched, time passes and nothing else. -/
theorem Course.onlyPauses {log : List Exchange} (h : Course log) :
    OnlyPauses (log.takeWhile fun x => !x.submits) := by
  induction h with
  | nil => exact List.forall_mem_nil _
  | pause time hrest ih => exact List.forall_mem_cons.mpr ⟨⟨time, rfl⟩, ih⟩
  | refused job role e hrest ih => exact List.forall_mem_nil _
  | submitted hwatch hrest ih => exact List.forall_mem_nil _

/-- Every job is watched, and then time passes. -/
theorem Course.exists_watch {log : List Exchange} (h : Course log)
    {job : String × List Exchange} (hjob : job ∈ jobs log) :
    ∃ role interval watch pauses, Watch job.1 role interval watch ∧ OnlyPauses pauses ∧
      job.2 = watch ++ pauses := by
  induction h with
  | nil => cases hjob
  | pause time hrest ih => exact ih hjob
  | refused _ role e hrest ih => exact ih hjob
  | @submitted log watch _ role id interval hwatch hrest ih =>
    rcases List.mem_cons.mp hjob with rfl | hjob
    -- What follows the watch, up to the next submission, is the start of the rest of the course.
    · refine ⟨role, interval, watch, _, hwatch, hrest.onlyPauses, ?_⟩
      exact List.takeWhile_append_of_pos fun x hx => by rw [hwatch.submits x hx]; rfl
    · rw [jobs_append hwatch.submits] at hjob
      exact ih hjob

/-! ## Jobs that are attended to -/

theorem OnlyPauses.polls {pauses : List Exchange} (h : OnlyPauses pauses) (id : String) :
    polls id pauses = [] := by
  rw [Batch.polls, List.filterMap_eq_nil_iff]
  intro x hx
  obtain ⟨time, rfl⟩ := h x hx
  rfl

theorem OnlyPauses.polls_append {pauses : List Exchange} (h : OnlyPauses pauses) (id : String)
    (log : List Exchange) : Batch.polls id (log ++ pauses) = Batch.polls id log := by
  rw [Batch.polls, List.filterMap_append, ← Batch.polls, ← Batch.polls, h.polls, List.append_nil]

theorem OnlyPauses.attended_append {pauses : List Exchange} (h : OnlyPauses pauses) (id : String)
    (log : List Exchange) : Attended id (log ++ pauses) ↔ Attended id log := by
  have hnone : ∀ x ∈ pauses, ¬ x.stops id = true := by
    intro x hx
    obtain ⟨time, rfl⟩ := h x hx
    exact Bool.false_ne_true
  rw [Attended, Attended, lastSeen?, h.polls_append, ← lastSeen?]
  refine or_congr_right ⟨?_, ?_⟩
  · rintro ⟨x, hx, hstops⟩
    rcases List.mem_append.mp hx with hx | hx
    · exact ⟨x, hx, hstops⟩
    · exact absurd hstops (hnone x hx)
  · rintro ⟨x, hx, hstops⟩
    exact ⟨x, List.mem_append_left _ hx, hstops⟩

/-- The states that are known. -/
def known : List String :=
  settled ++ waiting ++ running

/-- Whether the last poll of a job told a state that is known. -/
def Told (id : String) (log : List Exchange) : Prop :=
  ∃ status ∈ known, (polls id log).getLast? = some (.ok (some status))

instance (id : String) (log : List Exchange) : Decidable (Told id log) :=
  inferInstanceAs (Decidable (∃ status ∈ known, _ = _))

section

variable {id : String} {role : Option String} {interval : Duration} {log : List Exchange}

theorem Parting.polls {status : String} (h : Parting id role status log) :
    polls id log = [] := by
  cases h <;> rfl

theorem Parting.stops_iff {status : String} (h : Parting id role status log) :
    (∃ x ∈ log, x.stops id = true) ↔ status ∈ waiting ++ running := by
  cases h with
  | cancelled hstatus reply => simp [Exchange.stops, hstatus]
  | terminated hstatus reply => simp [Exchange.stops, hstatus]
  | left hwaiting hrunning => simp [hwaiting, hrunning]

theorem Watch.polls_ne_nil (h : Watch id role interval log) : polls id log ≠ [] := by
  cases h <;> simp [Batch.polls, Exchange.polled?]

theorem polls_cons_sleep (time : Duration) (log : List Exchange) :
    polls id (⟨.sleep time, ()⟩ :: log) = polls id log :=
  rfl

theorem polls_cons_status (reply : Except BackendError (Option String)) (log : List Exchange) :
    polls id (⟨.jobStatus id role, reply⟩ :: log) = reply :: polls id log := by
  simp [polls, Exchange.polled?]

/-- A state that is not settled does not count once a job is seen again, or not seen at all. -/
theorem exists_lastSeen?_cons {status : Option String} (hopen : status.getD "" ∉ settled)
    (log : List Exchange) :
    (∃ state ∈ settled, lastSeen? id (⟨.jobStatus id role, .ok status⟩ :: log) = some state) ↔
      ∃ state ∈ settled, lastSeen? id log = some state := by
  refine exists_congr fun state => and_congr_right fun hstate => ?_
  rw [lastSeen?, lastSeen?, polls_cons_status]
  cases status with
  | none => rfl
  | some first =>
    have hne : first ≠ state := by
      rintro rfl
      exact hopen hstate
    have hseen : ((.ok (some first) :: polls id log).filterMap
        fun reply : Except BackendError (Option String) => reply.toOption.join) =
          first :: (polls id log).filterMap fun reply => reply.toOption.join := rfl
    rw [hseen, List.getLast?_cons]
    cases ((polls id log).filterMap fun reply => reply.toOption.join).getLast? with
    | none => simp [hne]
    | some last => rfl

/-- The end of the watch decides: states seen before were not settled, and nothing was stopped. -/
theorem Watch.attended_iff (h : Watch id role interval log) : Attended id log ↔ Told id log := by
  induction h with
  | lost e =>
    simp [Attended, Told, lastSeen?, polls, Exchange.polled?, Exchange.stops, Except.toOption]
  | @ended status log hparting =>
    have hstops : (∃ x ∈ (⟨.jobStatus id role, .ok status⟩ :: log : List Exchange),
        x.stops id = true) ↔ status.getD "" ∈ waiting ++ running := by
      rw [← hparting.stops_iff]
      simp [Exchange.stops]
    rw [Attended, Told, lastSeen?, hstops, polls_cons_status, hparting.polls]
    cases status with
    | none => decide
    | some status => simp [known, Except.toOption]
  | @again status log hopen hrest ih =>
    -- The state seen here is not settled and there is a poll behind it, so it decides nothing.
    have hpolls : polls id (⟨.jobStatus id role, .ok status⟩ :: ⟨.sleep interval, ()⟩ :: log) =
        .ok status :: polls id log := by
      rw [polls_cons_status, polls_cons_sleep]
    have htold : Told id (⟨.jobStatus id role, .ok status⟩ :: ⟨.sleep interval, ()⟩ :: log) ↔
        Told id log := by
      obtain ⟨next, more, hmore⟩ := List.exists_cons_of_ne_nil hrest.polls_ne_nil
      rw [Told, Told, hpolls, hmore, List.getLast?_cons_cons]
    have hattended :
        Attended id (⟨.jobStatus id role, .ok status⟩ :: ⟨.sleep interval, ()⟩ :: log) ↔
          Attended id log := by
      refine or_congr ?_ (by simp [Exchange.stops])
      rw [exists_lastSeen?_cons hopen, lastSeen?, polls_cons_sleep, ← lastSeen?]
    rw [hattended, htold, ih]

end

/-- A submitted job is attended to, before another one is submitted and before the step ends, exactly
when the last poll of it has told a state that is known. -/
theorem jobs_attended_iff {σ : Type} (answer : Backends σ) (config : Config) (step : Step)
    (wait : Duration) (s : σ) {job : String × List Exchange}
    (hjob : job ∈ jobs ((Attempt.run config ⟨.cloud, "batch"⟩ step wait).history answer s)) :
    Attended job.1 job.2 ↔ Told job.1 job.2 := by
  obtain ⟨role, interval, watch, pauses, hwatch, hpauses, hlog⟩ :=
    (course_of_run answer config step wait s).exists_watch hjob
  rw [hlog, hpauses.attended_append, hwatch.attended_iff, Told, Told, hpauses.polls_append]

/-- A step that submits a job and has time for one more poll after the first one. -/
def submitStep : Step where
  action := "batch"
  retry := 1
  payload := [("job_name", .text "n"), ("job_queue", .text "q"), ("job_definition", .text "d"),
    ("waitTime", .ofInt 0)]

/-- A stage on which jobs run and never settle. -/
def busyStage (failures : List (Option BackendError)) : Stage :=
  { Stage.empty with cloud := some ⟨[("job_status", failures)], [], "job-1", [some "RUNNING"], .null,
      [], [], []⟩ }

/-- The jobs of the step on that stage. -/
def busyJobs (failures : List (Option BackendError)) : List (String × List Exchange) :=
  jobs ((Attempt.run {} ⟨.cloud, "batch"⟩ submitStep .zero).history Stage.answer
    (busyStage failures))

theorem jobs_attended_iff_busy :
    (busyJobs []).map Prod.fst = ["job-1", "job-1"] ∧
      ∀ job ∈ busyJobs [], Told job.1 job.2 ∧ Attended job.1 job.2 := by
  have htold : ∀ job ∈ busyJobs [], Told job.1 job.2 := by decide +kernel
  refine ⟨by decide +kernel, fun job hjob => ⟨htold job hjob, ?_⟩⟩
  exact (jobs_attended_iff Stage.answer {} submitStep .zero _ hjob).mpr (htold job hjob)

/-- A poll that fails leaves the job running, and the next attempt submits another one. -/
theorem throttled_leaves_job :
    ∃ job ∈ busyJobs [none, some (.cloud "throttled")], ¬ Attended job.1 job.2 := by
  decide +kernel

end Cloud.Batch

end FlowRunner
