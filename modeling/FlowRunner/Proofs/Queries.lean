import FlowRunner.Proofs.Polling

/-!
# Waiting for queries

An attempt of a query step is `Cloud.Athena.Trial`: it starts one query, and watches it if the step
says so. The polling ends with the first reply that does not leave the query open, if that is among
the polls that the configuration allows; a query that has succeeded is then asked for its rows,
once. Otherwise all polls are made, each with a wait after it, and the query counts as one that did
not succeed (`Cloud.Athena.query_trial`).
-/

namespace FlowRunner.Cloud.Athena

/-- A query is the one that a step describes. -/
structure Describes (step : Step) (query : Query) : Prop where
  text : step.text? "query" = some query.text
  database : query.database = (step.text? "database").getD "default"
  outputLocation : query.outputLocation = "s3://" ++ (step.text? "bucket").getD ""

/-- What a poll is told leaves the query open: it waits to be run, or runs. -/
def Open (reply : Except BackendError QueryState) : Prop :=
  reply = .ok .queued ∨ reply = .ok .running

/-- What is asked for after the last poll, and the outcome. -/
inductive Ending (id : String) (role : Option String) :
    Except BackendError QueryState → List Exchange → Except Failure Value → Prop
  | lost (e : BackendError) : Ending id role (.error e) [] (.error (.backend e))
  | failed : Ending id role (.ok .failed) [] (.ok (.bool false))
  | cancelled : Ending id role (.ok .cancelled) [] (.ok (.bool false))
  | rows (rows : List (List (Option String))) :
    Ending id role (.ok .succeeded) [⟨.queryRows id role, .ok rows⟩] (.ok (records rows))
  | rowsLost (e : BackendError) :
    Ending id role (.ok .succeeded) [⟨.queryRows id role, .error e⟩] (.error (.backend e))

/-- What is asked for to watch a query from a state of the backends on, with so many polls, and how
that ends. -/
inductive Watching {σ : Type} (answer : Backends σ) (id : String) (role : Option String)
    (interval : Duration) (polls : Nat) (start : σ) : List Exchange → Except Failure Value → Prop
  | ended {n : Nat} {later : List Exchange} {outcome : Except Failure Value}
    (hfirst : IsLeast {n | ¬ Open (told answer (.queryState id role) interval start n)} n)
    (hpolls : n < polls)
    (hending : Ending id role (told answer (.queryState id role) interval start n) later outcome) :
    Watching answer id role interval polls start
      (rounds answer (.queryState id role) interval start n ++
        ⟨.queryState id role, told answer (.queryState id role) interval start n⟩ :: later) outcome
  | exhausted
    (hopen : ∀ n < polls, Open (told answer (.queryState id role) interval start n)) :
    Watching answer id role interval polls start
      (rounds answer (.queryState id role) interval start polls) (.ok (.bool false))

/-- What an attempt of a query step asks for, and its outcome. -/
inductive Trial {σ : Type} (answer : Backends σ) (config : Config.Athena) (step : Step) (s : σ) :
    List Exchange → Except Failure Value → Prop
  | incomplete (hquery : step.text? "query" = none) :
    Trial answer config step s [] (.error (.missingParameter "query"))
  | refused {query : Query} (hquery : Describes step query) {e : BackendError}
    (hreply : (answer (.startQuery query (roleOf step)) s).1 = .error e) :
    Trial answer config step s [⟨.startQuery query (roleOf step), .error e⟩] (.error (.backend e))
  | unwatched {query : Query} (hquery : Describes step query) {id : String}
    (hreply : (answer (.startQuery query (roleOf step)) s).1 = .ok id)
    (hwait : step.truth "wait" = false) :
    Trial answer config step s [⟨.startQuery query (roleOf step), .ok id⟩] (.ok (.text id))
  | watched {query : Query} (hquery : Describes step query) {id : String}
    (hreply : (answer (.startQuery query (roleOf step)) s).1 = .ok id)
    (hwait : step.truth "wait" = true) {log : List Exchange} {outcome : Except Failure Value}
    (hwatch : Watching answer id (roleOf step) (.ofSecs config.pollIntervalSecs) config.maxPolls
      (answer (.startQuery query (roleOf step)) s).2 log outcome) :
    Trial answer config step s (⟨.startQuery query (roleOf step), .ok id⟩ :: log) outcome

/-! ## The polls of a query -/

section

variable (id : String) (role : Option String) (interval : Duration)

/-- What follows the last poll. -/
def conclude : Except BackendError QueryState → Script (Except Failure Value)
  | .error e => .done (.error (.backend e))
  | .ok .succeeded =>
    .ask (.queryRows id role) fun
      | .ok rows => .done (.ok (records rows))
      | .error e => .done (.error (.backend e))
  | .ok _ => .done (.ok (.bool false))

instance (reply : Except BackendError QueryState) : Decidable (Open reply) :=
  match reply with
  | .error _ => .isFalse (by simp [Open])
  | .ok state => decidable_of_iff (state = .queued ∨ state = .running) (by simp [Open])

theorem run_poll_succ (polls : Nat) :
    (poll id role interval (polls + 1)).run =
      .ask (.queryState id role) fun reply =>
        if ¬ Open reply then conclude id role reply
        else .ask (.sleep interval) fun _ => (poll id role interval polls).run := by
  refine congrArg (Script.ask (.queryState id role)) (funext fun reply => ?_)
  cases reply with
  | error e => rfl
  | ok state =>
    cases state with
    | queued => rfl
    | running => rfl
    | failed => rfl
    | cancelled => rfl
    | succeeded =>
      refine congrArg (Script.ask (.queryRows id role)) (funext fun rows => ?_)
      cases rows with
      | error e => rfl
      | ok rows => rfl

theorem conclude_ensures {reply : Except BackendError QueryState} (h : ¬ Open reply) :
    (conclude id role reply).Ensures (Ending id role reply) := by
  cases reply with
  | error e => exact Script.ensures_done (.lost e)
  | ok state =>
    cases state with
    | queued => exact absurd (.inl rfl) h
    | running => exact absurd (.inr rfl) h
    | failed => exact Script.ensures_done .failed
    | cancelled => exact Script.ensures_done .cancelled
    | succeeded =>
      refine Script.ensures_ask fun reply => ?_
      cases reply with
      | ok rows => exact Script.ensures_done (.rows rows)
      | error e => exact Script.ensures_done (.rowsLost e)

end

section

variable {σ : Type} {answer : Backends σ} {id : String} {role : Option String}
  {interval : Duration} {polls : Nat} {s : σ}

theorem watching_of_polled {log : List Exchange} {outcome : Except Failure Value}
    (h : Polled answer (.queryState id role) interval (fun reply => ¬ Open reply)
      (conclude id role) (.done (.ok (.bool false))) polls s log outcome) :
    Watching answer id role interval polls s log outcome := by
  cases h with
  | ended hfirst hpolls =>
    exact .ended hfirst hpolls (conclude_ensures id role hfirst.1 σ answer _)
  | exhausted hall =>
    rw [Script.history_done, List.append_nil]
    exact .exhausted fun n hn => not_not.mp (hall n hn)

theorem poll_watching (answer : Backends σ) (id : String) (role : Option String)
    (interval : Duration) (polls : Nat) (s : σ) :
    Watching answer id role interval polls s
      ((poll id role interval polls).run.history answer s)
      ((poll id role interval polls).run.run answer s).1 :=
  watching_of_polled (polled_of_loop (fun polls => (poll id role interval polls).run) rfl
    (run_poll_succ id role interval) answer polls s)

-- A query that succeeds at the third poll is given up when there are two, after the second wait.
example : ((poll "query-1" none .zero 2).run.history Stage.answer { Stage.empty with
    cloud := some ⟨[], [], "", [], .null, [], [.queued, .running, .succeeded], []⟩ }).length = 4 := by
  decide +kernel

end

/-! ## From the start of a query on -/

theorem exists_describes {step : Step} {text : String} (h : step.text? "query" = some text) :
    ∃ query, Describes step query :=
  ⟨⟨text, _, _⟩, h, rfl, rfl⟩

theorem run_of_missing (config : Config.Athena) {step : Step} (h : step.text? "query" = none) :
    (run config step).run = .done (.error (.missingParameter "query")) := by
  unfold run Program.required
  rw [h]
  rfl

theorem run_of_describes (config : Config.Athena) {step : Step} {query : Query}
    (h : Describes step query) :
    (run config step).run = .ask (.startQuery query (roleOf step)) fun reply =>
      match reply with
      | .error e => .done (.error (.backend e))
      | .ok id =>
        if step.truth "wait" then
          (poll id (roleOf step) (.ofSecs config.pollIntervalSecs) config.maxPolls).run
        else .done (.ok (.text id)) := by
  obtain ⟨text, database, outputLocation⟩ := query
  obtain ⟨htext, rfl, rfl⟩ := h
  unfold run Program.required
  rw [htext]
  refine congrArg (Script.ask (.startQuery _ (roleOf step))) (funext fun reply => ?_)
  cases reply with
  | error e => rfl
  | ok id =>
    cases step.truth "wait" with
    | true => rfl
    | false => rfl

/-- An attempt of a query step starts one query, if the step has one, and watches it if the step says
so. -/
theorem query_trial {σ : Type} (answer : Backends σ) (config : Config) (step : Step) (s : σ) :
    Trial answer config.athena step s
      ((Attempt.invocation config ⟨.cloud, "athena"⟩ step).history answer s)
      ((Attempt.invocation config ⟨.cloud, "athena"⟩ step).run answer s).1 := by
  change Trial answer config.athena step s ((run config.athena step).run.history answer s)
    ((run config.athena step).run.run answer s).1
  cases htext : step.text? "query" with
  | none =>
    rw [run_of_missing config.athena htext]
    exact .incomplete htext
  | some text =>
    obtain ⟨query, hquery⟩ := exists_describes htext
    rw [run_of_describes config.athena hquery]
    cases hreply : (answer (.startQuery query (roleOf step)) s).1 with
    | error e =>
      simp only [Script.history, Script.run, hreply]
      exact .refused hquery hreply
    | ok id =>
      simp only [Script.history, Script.run, hreply]
      cases hwait : step.truth "wait" with
      | false => exact .unwatched hquery hreply hwait
      | true => exact .watched hquery hreply hwait (poll_watching answer id _ _ _ _)

end FlowRunner.Cloud.Athena
