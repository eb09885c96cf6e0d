import FlowRunner.Proofs.BatchJobs

/-!
# Polling

Something that is under way is polled: asked for its state, again and again, with a wait after each
time. What poll `n` is told is determined by the backends alone (`told`), so that the end of the
polling can be said of the sequence of all replies (`Polled`); every script that polls in this way
is such a loop (`polled_of_loop`).

An attempt of a batch step is `Cloud.Batch.Trial`: it submits one job and polls it. The last poll is
the first one that fails or tells a settled state, or the one after as many waits as the step allows
and one more. A job that still waits or runs then is stopped, once, and the state that was told last
decides the outcome, whatever came of stopping (`Cloud.Batch.invocation_trial`).
-/

namespace FlowRunner

/-! ## Polls and waits -/

section

variable {σ : Type} (answer : Backends σ) (poll : Effect) (interval : Duration)

/-- The state of the backends at poll `n`; every poll before it was followed by a wait. -/
def atPoll (s : σ) : Nat → σ
  | 0 => s
  | n + 1 => atPoll (answer (.sleep interval) (answer poll s).2).2 n

/-- What poll `n` is told. -/
def told (s : σ) (n : Nat) : poll.Reply :=
  (answer poll (atPoll answer poll interval s n)).1

/-- The first `n` polls with what they are told, each followed by a wait. -/
def rounds (s : σ) (n : Nat) : List Exchange :=
  (List.range n).flatMap fun i => [⟨poll, told answer poll interval s i⟩, ⟨.sleep interval, ()⟩]

theorem rounds_succ (s : σ) (n : Nat) :
    rounds answer poll interval s (n + 1) =
      ⟨poll, (answer poll s).1⟩ :: ⟨.sleep interval, ()⟩ ::
        rounds answer poll interval (answer (.sleep interval) (answer poll s).2).2 n := by
  rw [rounds, List.range_succ_eq_map, List.flatMap_cons, List.flatMap_map]
  rfl

/-- What a loop of polls asks for, and its result. The first reply that ends the loop is concluded,
and each one before it is followed by a wait; when all polls are made, `last` remains. -/
inductive Polled {α : Type} (Ends : poll.Reply → Prop) (conclude : poll.Reply → Script α)
    (last : Script α) (polls : Nat) (s : σ) : List Exchange → α → Prop
  | ended {n : Nat} (hfirst : IsLeast {n | Ends (told answer poll interval s n)} n)
    (hpolls : n < polls) :
    Polled Ends conclude last polls s
      (rounds answer poll interval s n ++
        (Script.ask poll conclude).history answer (atPoll answer poll interval s n))
      ((Script.ask poll conclude).run answer (atPoll answer poll interval s n)).1
  | exhausted (hopen : ∀ n < polls, ¬ Ends (told answer poll interval s n)) :
    Polled Ends conclude last polls s
      (rounds answer poll interval s polls ++
        last.history answer (atPoll answer poll interval s polls))
      (last.run answer (atPoll answer poll interval s polls)).1

end

section

variable {σ α : Type} {answer : Backends σ} {poll : Effect} {interval : Duration}
  {Ends : poll.Reply → Prop} {conclude : poll.Reply → Script α} {last : Script α} {polls : Nat}
  {s : σ}

/-- A loop after a poll that does not end it. -/
theorem Polled.later {log : List Exchange} {result : α} (hopen : ¬ Ends (answer poll s).1)
    (h : Polled answer poll interval Ends conclude last polls
      (answer (.sleep interval) (answer poll s).2).2 log result) :
    Polled answer poll interval Ends conclude last (polls + 1) s
      (⟨poll, (answer poll s).1⟩ :: ⟨.sleep interval, ()⟩ :: log) result := by
  cases h with
  | @ended n hfirst hpolls =>
    have hlater : IsLeast {n | Ends (told answer poll interval s n)} (n + 1) :=
      Attempt.isLeast_succ hopen hfirst
    have hlog : Polled answer poll interval Ends conclude last (polls + 1) s _ _ :=
      .ended hlater (Nat.succ_lt_succ hpolls)
    rw [rounds_succ] at hlog
    exact hlog
  | exhausted hall =>
    have hlater : ∀ n < polls + 1, ¬ Ends (told answer poll interval s n) := by
      rintro (_ | n) hn
      · exact hopen
      · exact hall n (Nat.lt_of_succ_lt_succ hn)
    have hlog : Polled answer poll interval Ends conclude last (polls + 1) s _ _ :=
      .exhausted hlater
    rw [rounds_succ] at hlog
    exact hlog

/-- A script that polls as long as no reply ends it is a loop of polls. -/
theorem polled_of_loop [DecidablePred Ends] (loop : Nat → Script α) (hlast : loop 0 = last)
    (hloop : ∀ polls, loop (polls + 1) = .ask poll fun reply =>
      if Ends reply then conclude reply else .ask (.sleep interval) fun _ => loop polls)
    (answer : Backends σ) (polls : Nat) (s : σ) :
    Polled answer poll interval Ends conclude last polls s ((loop polls).history answer s)
      ((loop polls).run answer s).1 := by
  induction polls generalizing s with
  | zero =>
    rw [hlast]
    exact .exhausted fun n hn => absurd hn (Nat.not_lt_zero n)
  | succ polls ih =>
    rw [hloop]
    by_cases hends : Ends (answer poll s).1
    · have hfirst : Polled answer poll interval Ends conclude last (polls + 1) s
          ((Script.ask poll conclude).history answer s)
          ((Script.ask poll conclude).run answer s).1 :=
        .ended (n := 0) (Attempt.isLeast_zero hends) (Nat.succ_pos polls)
      simpa only [Script.history, Script.run, if_pos hends] using hfirst
    · have hlater := (ih _).later hends
      simpa only [Script.history, Script.run, if_neg hends] using hlater

end

/-! ## The attempt of a batch step -/

namespace Cloud.Batch

/-- The first parameter of a job that a step does not have. -/
def firstMissing? (step : Step) : Option String :=
  ["job_name", "job_queue", "job_definition"].find? fun key => (step.text? key).isNone

/-- A job is the one that a step describes. -/
structure Describes (step : Step) (job : BatchJob) : Prop where
  name : step.text? "job_name" = some job.name
  queue : step.text? "job_queue" = some job.queue
  definition : step.text? "job_definition" = some job.definition
  command : job.command = commandOf step

/-- What a poll is told ends the polling: a failure, or a settled state. -/
def Decides : Except BackendError (Option String) → Prop
  | .error _ => True
  | .ok status => status.getD "" ∈ settled

instance (reply : Except BackendError (Option String)) : Decidable (Decides reply) :=
  match reply with
  | .error _ => inferInstanceAs (Decidable True)
  | .ok status => inferInstanceAs (Decidable (status.getD "" ∈ settled))

/-- How an attempt ends with what the last poll is told: what is asked for to stop the job, and the
outcome. -/
inductive Ending (id expected : String) (role : Option String) :
    Except BackendError (Option String) → List Exchange → Except Failure Value → Prop
  | lost (e : BackendError) : Ending id expected role (.error e) [] (.error (.backend e))
  | expected {status : Option String} {parting : List Exchange}
    (hparting : Parting id role (status.getD "") parting) (h : status.getD "" = expected) :
    Ending id expected role (.ok status) parting
      (.ok (.object [("job_id", .text id), ("status", .text (status.getD ""))]))
  | unexpected {status : Option String} {parting : List Exchange}
    (hparting : Parting id role (status.getD "") parting) (h : status.getD "" ≠ expected) :
    Ending id expected role (.ok status) parting
      (.error (.backend (.cloud ("Job " ++ id ++
        " status is not as expected. Current status is " ++ status.getD ""))))

/-- What is asked for to watch a job from a state of the backends on, and how that ends. The last
poll is the first one that decides, or the one at the limit. -/
inductive Watching {σ : Type} (answer : Backends σ) (id expected : String) (role : Option String)
    (interval : Duration) (limit : Nat) (start : σ) :
    List Exchange → Except Failure Value → Prop
  | upTo {n : Nat} {parting : List Exchange} {outcome : Except Failure Value}
    (hlast : IsLeast
      {n | n = limit ∨ Decides (told answer (.jobStatus id role) interval start n)} n)
    (hending : Ending id expected role (told answer (.jobStatus id role) interval start n)
      parting outcome) :
    Watching answer id expected role interval limit start
      (rounds answer (.jobStatus id role) interval start n ++
        ⟨.jobStatus id role, told answer (.jobStatus id role) interval start n⟩ :: parting) outcome

/-- How many waits a step allows before one more. -/
def waitOf (config : Config.Batch) (step : Step) : Nat :=
  (step.natural? "waitTime").getD config.defaultWait

/-- The state that a step expects a job to end in. -/
def expectedOf (step : Step) : String :=
  (step.text? "status").getD "SUCCEEDED"

/-- What an attempt of a batch step asks for, and its outcome. -/
inductive Trial {σ : Type} (answer : Backends σ) (config : Config.Batch) (step : Step) (s : σ) :
    List Exchange → Except Failure Value → Prop
  | incomplete {key : String} (hkey : firstMissing? step = some key) :
    Trial answer config step s [] (.error (.missingParameter key))
  | refused {job : BatchJob} (hjob : Describes step job) {e : BackendError}
    (hreply : (answer (.submitJob job (roleOf step)) s).1 = .error e) :
    Trial answer config step s [⟨.submitJob job (roleOf step), .error e⟩] (.error (.backend e))
  | watched {job : BatchJob} (hjob : Describes step job) {id : String}
    (hreply : (answer (.submitJob job (roleOf step)) s).1 = .ok id)
    {log : List Exchange} {outcome : Except Failure Value}
    (hwatch : Watching answer id (expectedOf step) (roleOf step)
      (.ofSecs config.pollIntervalSecs) (waitOf config step + 1)
      (answer (.submitJob job (roleOf step)) s).2 log outcome) :
    Trial answer config step s (⟨.submitJob job (roleOf step), .ok id⟩ :: log) outcome

section

variable (id expected : String) (role : Option String) (interval : Duration)

/-- What follows the last poll. -/
def conclude (reply : Except BackendError (Option String)) : Script (Except Failure Value) :=
  match reply with
  | .error e => .done (.error (.backend e))
  | .ok status => (poll.finish id expected role (status.getD "")).run

theorem run_poll_zero :
    (poll id expected role interval 0).run =
      .ask (.jobStatus id role) (conclude id expected role) := by
  refine congrArg (Script.ask (.jobStatus id role)) (funext fun reply => ?_)
  cases reply with
  | error e => rfl
  | ok status => rfl

theorem run_poll_succ (more : Nat) :
    (poll id expected role interval (more + 1)).run =
      .ask (.jobStatus id role) fun reply =>
        if Decides reply then conclude id expected role reply
        else .ask (.sleep interval) fun _ => (poll id expected role interval more).run := by
  refine congrArg (Script.ask (.jobStatus id role)) (funext fun reply => ?_)
  cases reply with
  | error e => rfl
  | ok status =>
    by_cases hsettled : status.getD "" ∈ settled
    · have hcontains : settled.contains (status.getD "") = true :=
        List.contains_iff_mem.mpr hsettled
      rw [if_pos (show Decides (.ok status) from hsettled)]
      dsimp only [Script.bind, ExceptT.bindCont]
      rw [if_pos hcontains]
      rfl
    · have hcontains : ¬ settled.contains (status.getD "") = true :=
        mt List.contains_iff_mem.mp hsettled
      rw [if_neg (show ¬ Decides (.ok status) from hsettled)]
      dsimp only [Script.bind, ExceptT.bindCont]
      rw [if_neg hcontains]
      rfl

theorem conclude_ensures (reply : Except BackendError (Option String)) :
    (conclude id expected role reply).Ensures (Ending id expected role reply) := by
  cases reply with
  | error e => exact Script.ensures_done (.lost e)
  | ok status =>
    refine Program.ensures_bind (stop_ensures id role _) ?_ ?_
    · rintro log _ ⟨hparting, -⟩
      refine Script.ensures_done ?_
      rw [List.append_nil]
      unfold resultOf
      split
      · rename_i h
        exact .expected hparting h
      · rename_i h
        exact .unexpected hparting h
    · rintro log failure ⟨-, hfailure⟩
      cases hfailure

end

section

variable {σ : Type} {answer : Backends σ} {id expected : String} {role : Option String}
  {interval : Duration} {limit : Nat} {s : σ}

/-- The poll that ends the loop, or the one that remains, is the last one of the watch. -/
theorem watching_of_polled {log : List Exchange} {outcome : Except Failure Value}
    (h : Polled answer (.jobStatus id role) interval Decides (conclude id expected role)
      (.ask (.jobStatus id role) (conclude id expected role)) limit s log outcome) :
    Watching answer id expected role interval limit s log outcome := by
  cases h with
  | @ended n hfirst hpolls =>
    have hlast : IsLeast {n | n = limit ∨
        Decides (told answer (.jobStatus id role) interval s n)} n := by
      refine ⟨.inr hfirst.1, ?_⟩
      rintro m (rfl | hm)
      · exact hpolls.le
      · exact hfirst.2 hm
    exact .upTo hlast (conclude_ensures id expected role _ σ answer _)
  | exhausted hopen =>
    have hlast : IsLeast {n | n = limit ∨
        Decides (told answer (.jobStatus id role) interval s n)} limit := by
      refine ⟨.inl rfl, ?_⟩
      rintro m (rfl | hm)
      · exact le_rfl
      · exact not_lt.mp fun hlt => hopen m hlt hm
    exact .upTo hlast (conclude_ensures id expected role _ σ answer _)

theorem poll_watching (answer : Backends σ) (id expected : String) (role : Option String)
    (interval : Duration) (more : Nat) (s : σ) :
    Watching answer id expected role interval more s
      ((poll id expected role interval more).run.history answer s)
      ((poll id expected role interval more).run.run answer s).1 :=
  watching_of_polled (polled_of_loop (fun more => (poll id expected role interval more).run)
    (run_poll_zero id expected role interval) (run_poll_succ id expected role interval)
    answer more s)

-- With one more poll to come, the job is polled, waited for, polled again and stopped.
example : ((poll "job-1" "SUCCEEDED" none .zero 1).run.history Stage.answer
    { Stage.empty with cloud := some ⟨[], [], "", [some "RUNNING"], .null, [], [], []⟩ }).length =
      4 := by
  decide +kernel

end

/-! ## From the submission on -/

theorem exists_describes {step : Step} (h : firstMissing? step = none) :
    ∃ job, Describes step job := by
  simp only [firstMissing?, List.find?_eq_none, List.forall_mem_cons, Option.isNone_iff_eq_none,
    ← ne_eq, Option.ne_none_iff_exists'] at h
  obtain ⟨⟨name, hname⟩, ⟨queue, hqueue⟩, ⟨definition, hdefinition⟩, -⟩ := h
  exact ⟨⟨name, queue, definition, commandOf step⟩, hname, hqueue, hdefinition, rfl⟩

theorem run_of_missing (config : Config.Batch) {step : Step} {key : String}
    (h : firstMissing? step = some key) :
    (run config step).run = .done (.error (.missingParameter key)) := by
  unfold run Program.required
  cases hname : step.text? "job_name" with
  | none =>
    have hkey : "job_name" = key := by simpa [firstMissing?, hname] using h
    rw [← hkey]
    rfl
  | some name =>
    cases hqueue : step.text? "job_queue" with
    | none =>
      have hkey : "job_queue" = key := by simpa [firstMissing?, hname, hqueue] using h
      rw [← hkey]
      rfl
    | some queue =>
      cases hdefinition : step.text? "job_definition" with
      | none =>
        have hkey : "job_definition" = key := by
          simpa [firstMissing?, hname, hqueue, hdefinition] using h
        rw [← hkey]
        rfl
      | some definition =>
        have hnone : firstMissing? step = none := by
          simp [firstMissing?, hname, hqueue, hdefinition]
        rw [hnone] at h
        cases h

theorem run_of_describes (config : Config.Batch) {step : Step} {job : BatchJob}
    (h : Describes step job) :
    (run config step).run = .ask (.submitJob job (roleOf step)) fun reply =>
      match reply with
      | .error e => .done (.error (.backend e))
      | .ok id => (poll id (expectedOf step) (roleOf step) (.ofSecs config.pollIntervalSecs)
          (waitOf config step + 1)).run := by
  obtain ⟨name, queue, definition, command⟩ := job
  obtain ⟨hname, hqueue, hdefinition, rfl⟩ := h
  unfold run Program.required
  rw [hname, hqueue, hdefinition]
  refine congrArg (Script.ask (.submitJob _ (roleOf step))) (funext fun reply => ?_)
  cases reply with
  | error e => rfl
  | ok id => rfl

/-- An attempt of a batch step submits one job and watches it, if the step describes a job. -/
theorem invocation_trial {σ : Type} (answer : Backends σ) (config : Config) (step : Step) (s : σ) :
    Trial answer config.batch step s
      ((Attempt.invocation config ⟨.cloud, "batch"⟩ step).history answer s)
      ((Attempt.invocation config ⟨.cloud, "batch"⟩ step).run answer s).1 := by
  change Trial answer config.batch step s ((run config.batch step).run.history answer s)
    ((run config.batch step).run.run answer s).1
  cases hmissing : firstMissing? step with
  | some key =>
    rw [run_of_missing config.batch hmissing]
    exact .incomplete hmissing
  | none =>
    obtain ⟨job, hjob⟩ := exists_describes hmissing
    rw [run_of_describes config.batch hjob]
    cases hreply : (answer (.submitJob job (roleOf step)) s).1 with
    | error e =>
      simp only [Script.history, Script.run, hreply]
      exact .refused hjob hreply
    | ok id =>
      simp only [Script.history, Script.run, hreply]
      exact .watched hjob hreply (poll_watching answer id _ _ _ _ _)

end Cloud.Batch

end FlowRunner
