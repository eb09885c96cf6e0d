import FlowRunner.Proofs.Attempts
import FlowRunner.Run.Execution

/-!
# What becomes of steps

A run either gets past a step, which is then a visit (`Step.Passes`), or ends there (`Step.Ends`).
Both relations say all that happens: the condition on the store, what the store and the backends
are afterwards, and the exchanges in between. `Workflow.Passes` and `Workflow.Ends` are the same for
a run over steps. Everything about runs is derived from these.

* `Step.passes_or_ends`, `Workflow.passes_or_ends`: one of the two is always the case.
* `Passes.run_eq`, `Ends.run_eq`: what the program does is what the relation says, so that no two
  cases hold together.
* `Workflow.run_cases`: the three ways of a whole run, with the one over its parameters.
-/

namespace FlowRunner

variable {σ : Type}

/-- What a run leaves behind of a step that it gets past. -/
inductive Visit
  | skipped
  /-- The resolved step with its final result. -/
  | executed (step : Step) (result : Value)

theorem Outcome.eq_completed_of_store? {outcome : Outcome} {store : Store}
    (h : outcome.store? = some store) : outcome = .completed store := by
  cases outcome with
  | completed final => exact congrArg completed (Option.some.inj h)
  | returned result => cases h
  | failed failure => cases h
  | aborted => cases h

theorem Outcome.exists_completed {outcome : Outcome} (h : outcome.store?.isSome = true) :
    ∃ final, outcome = .completed final := by
  obtain ⟨final, hfinal⟩ := Option.isSome_iff_exists.mp h
  exact ⟨final, eq_completed_of_store? hfinal⟩

theorem Outcome.exists_failed {outcome : Outcome} (h : outcome.failure?.isSome = true) :
    ∃ failure, outcome = .failed failure := by
  cases outcome with
  | failed failure => exact ⟨failure, rfl⟩
  | completed final => cases h
  | returned result => cases h
  | aborted => cases h

namespace Step

/-- A step as written is resolved and routed, and has a wait between its attempts. -/
structure Dispatched (store : Store) (raw : RawStep) (step : Step) (route : Route)
    (wait : Duration) : Prop where
  stays : skipRequested store raw = .ok false
  resolves : ofRawWith store raw = .ok step
  routes : Route.ofStep step = .ok route
  waits : step.retryWait? = some wait

/-- The run gets past a step: with the visit, the store and the state of the backends after it, and
the exchanges. -/
inductive Passes (answer : Backends σ) (config : Config) (store : Store) (s : σ) (raw : RawStep) :
    Visit → Store → σ → List Exchange → Prop
  | skipped (hskip : skipRequested store raw = .ok true) :
    Passes answer config store s raw .skipped store s []
  | executed {step : Step} {route : Route} {wait delay : Duration} {result : Value} {t : σ}
    (hstep : Dispatched store raw step route wait)
    (hrun : (Attempt.run config route step wait).run answer s = (.ok result, t))
    (hstays : step.returns = false)
    (hdelay : step.postDelay? = some delay) :
    Passes answer config store s raw (.executed step result) (step.keep store result)
      (Attempt.paused answer delay t)
      ((Attempt.run config route step wait).history answer s ++ Attempt.pauseHistory delay)

/-- A step fails: with its label, the failure, the state of the backends after it, and the
exchanges. The label is that of the step as written until the step is resolved. -/
inductive Fails (answer : Backends σ) (config : Config) (index : Nat) (store : Store) (s : σ)
    (raw : RawStep) : (label : String) → Failure → σ → List Exchange → Prop
  | skipping {e : ResolveError} (hskip : skipRequested store raw = .error e) :
    Fails answer config index store s raw (rawLabel raw index) (.resolve e) s []
  | resolving {e : ResolveError} (hstays : skipRequested store raw = .ok false)
    (hresolves : ofRawWith store raw = .error e) :
    Fails answer config index store s raw (rawLabel raw index) (.resolve e) s []
  | routing {step : Step} {e : RoutingError} (hstays : skipRequested store raw = .ok false)
    (hresolves : ofRawWith store raw = .ok step) (hroutes : Route.ofStep step = .error e) :
    Fails answer config index store s raw (step.label index) (.routing e) s []
  | dispatch {step : Step} {route : Route} {wait : Duration} {failure : Failure} {t : σ}
    (hstep : Dispatched store raw step route wait)
    (hrun : (Attempt.run config route step wait).run answer s = (.error failure, t)) :
    Fails answer config index store s raw (step.label index) failure t
      ((Attempt.run config route step wait).history answer s)

/-- The run ends at a step: with the outcome, the state of the backends after it, and the
exchanges. -/
inductive Ends (answer : Backends σ) (config : Config) (index : Nat) (store : Store) (s : σ)
    (raw : RawStep) : Outcome → σ → List Exchange → Prop
  | failed {label : String} {failure : Failure} {t : σ} {log : List Exchange}
    (hfails : Fails answer config index store s raw label failure t log) :
    Ends answer config index store s raw (.failed (.step label failure)) t log
  | returned {step : Step} {route : Route} {wait : Duration} {result : Value} {t : σ}
    (hstep : Dispatched store raw step route wait)
    (hrun : (Attempt.run config route step wait).run answer s = (.ok result, t))
    (hreturns : step.returns = true) :
    Ends answer config index store s raw (.returned result) t
      ((Attempt.run config route step wait).history answer s)
  | overlongWait {step : Step} {route : Route} (hstays : skipRequested store raw = .ok false)
    (hresolves : ofRawWith store raw = .ok step) (hroutes : Route.ofStep step = .ok route)
    (hwait : step.retryWait? = none) :
    Ends answer config index store s raw .aborted s []
  | overlongDelay {step : Step} {route : Route} {wait : Duration} {result : Value} {t : σ}
    (hstep : Dispatched store raw step route wait)
    (hrun : (Attempt.run config route step wait).run answer s = (.ok result, t))
    (hstays : step.returns = false) (hdelay : step.postDelay? = none) :
    Ends answer config index store s raw .aborted t
      ((Attempt.run config route step wait).history answer s)

theorem Ends.store?_eq_none {answer : Backends σ} {config : Config} {index : Nat} {store : Store}
    {s t : σ} {raw : RawStep} {outcome : Outcome} {log : List Exchange}
    (h : Ends answer config index store s raw outcome t log) : outcome.store? = none := by
  cases h <;> rfl

/-! ## A step does one of the two -/

section

variable {answer : Backends σ} {config : Config} {store : Store} {s t : σ} {raw : RawStep}
  {step : Step} {route : Route} {wait : Duration}

theorem Dispatched.run_error {failure : Failure} (h : Dispatched store raw step route wait)
    (hrun : (Attempt.run config route step wait).run answer s = (.error failure, t))
    (index : Nat) :
    (runRaw config index store raw).run answer s =
        (.ended (.failed (.step (step.label index) failure)), t) ∧
      (runRaw config index store raw).history answer s =
        (Attempt.run config route step wait).history answer s := by
  simp only [runRaw, perform, h.stays, h.resolves, h.routes, h.waits, Script.run_bind,
    Script.history_bind, hrun]
  exact ⟨rfl, List.append_nil _⟩

theorem Dispatched.run_ok {result : Value} (h : Dispatched store raw step route wait)
    (hrun : (Attempt.run config route step wait).run answer s = (.ok result, t)) (index : Nat) :
    (runRaw config index store raw).run answer s = (settle store step result).run answer t ∧
      (runRaw config index store raw).history answer s =
        (Attempt.run config route step wait).history answer s ++
          (settle store step result).history answer t := by
  simp only [runRaw, perform, h.stays, h.resolves, h.routes, h.waits, Script.run_bind,
    Script.history_bind, hrun, and_self]

theorem Passes.run_eq {visit : Visit} {next : Store} {log : List Exchange}
    (h : Passes answer config store s raw visit next t log) (index : Nat) :
    (runRaw config index store raw).run answer s = (.next next, t) ∧
      (runRaw config index store raw).history answer s = log := by
  cases h with
  | skipped hskip =>
    simp only [runRaw, hskip]
    exact ⟨rfl, rfl⟩
  | executed hstep hrun hstays hdelay =>
    obtain ⟨hprogress, hhistory⟩ := hstep.run_ok hrun index
    rw [hprogress, hhistory]
    simp [settle, hstays, hdelay, Attempt.run_pause, Attempt.history_pause]

theorem Ends.run_eq {index : Nat} {outcome : Outcome} {log : List Exchange}
    (h : Ends answer config index store s raw outcome t log) :
    (runRaw config index store raw).run answer s = (.ended outcome, t) ∧
      (runRaw config index store raw).history answer s = log := by
  cases h with
  | failed hfails =>
    cases hfails with
    | skipping hskip =>
      simp only [runRaw, hskip]
      exact ⟨rfl, rfl⟩
    | resolving hstays hresolves =>
      simp only [runRaw, hstays, hresolves]
      exact ⟨rfl, rfl⟩
    | routing hstays hresolves hroutes =>
      simp only [runRaw, perform, hstays, hresolves, hroutes]
      exact ⟨rfl, rfl⟩
    | dispatch hstep hrun => exact hstep.run_error hrun index
  | returned hstep hrun hreturns =>
    obtain ⟨hprogress, hhistory⟩ := hstep.run_ok hrun index
    rw [hprogress, hhistory]
    simp [settle, hreturns]
  | overlongWait hstays hresolves hroutes hwait =>
    simp only [runRaw, perform, hstays, hresolves, hroutes, hwait]
    exact ⟨rfl, rfl⟩
  | overlongDelay hstep hrun hstays hdelay =>
    obtain ⟨hprogress, hhistory⟩ := hstep.run_ok hrun index
    rw [hprogress, hhistory]
    simp [settle, hstays, hdelay]

end

theorem dispatched_spec (answer : Backends σ) (config : Config) (index : Nat) {store : Store}
    (s : σ) {raw : RawStep} {step : Step} {route : Route} {wait : Duration}
    (h : Dispatched store raw step route wait) :
    (∃ visit next t log, Passes answer config store s raw visit next t log) ∨
      ∃ outcome t log, Ends answer config index store s raw outcome t log := by
  rcases hrun : (Attempt.run config route step wait).run answer s with ⟨failure | result, t⟩
  · exact .inr ⟨_, _, _, .failed (.dispatch h hrun)⟩
  · cases hreturns : step.returns with
    | true => exact .inr ⟨_, _, _, .returned h hrun hreturns⟩
    | false =>
      cases hdelay : step.postDelay? with
      | none => exact .inr ⟨_, _, _, .overlongDelay h hrun hreturns hdelay⟩
      | some delay => exact .inl ⟨_, _, _, _, .executed h hrun hreturns hdelay⟩

/-- A property of histories that pauses and the calls of a step have, and that is kept when one
follows the other, is one of the whole step. -/
theorem history_induction (answer : Backends σ) (P : List Exchange → Prop) (hnil : P [])
    (happend : ∀ log later, P log → P later → P (log ++ later))
    (hpause : ∀ time, P (Attempt.pauseHistory time)) {config : Config} {store : Store}
    {raw : RawStep} {step : Step} {route : Route} (hresolves : ofRawWith store raw = .ok step)
    (hroutes : Route.ofStep step = .ok route)
    (hcall : ∀ start, P ((Attempt.invocation config route step).history answer start))
    (index : Nat) (s : σ) : P ((runRaw config index store raw).history answer s) := by
  have hsettle : ∀ result t, P ((settle store step result).history answer t) := by
    intro result t
    unfold settle
    split
    · exact hnil
    · split
      · rw [Attempt.history_pause]
        exact happend _ _ (hpause _) hnil
      · exact hnil
  unfold runRaw
  cases hskip : skipRequested store raw with
  | error e => exact hnil
  | ok skips =>
    cases skips with
    | true => exact hnil
    | false =>
      simp only [hresolves, perform, hroutes]
      cases step.retryWait? with
      | none => exact hnil
      | some wait =>
        rw [Script.history_bind]
        refine happend _ _
          (Attempt.history_induction answer P hnil happend (hpause wait) hcall s) ?_
        cases ((Attempt.run config route step wait).run answer s).1 with
        | ok result => exact hsettle result _
        | error failure => exact hnil

/-- The run gets past a step or ends at it. -/
theorem passes_or_ends (answer : Backends σ) (config : Config) (index : Nat) (store : Store)
    (s : σ) (raw : RawStep) :
    (∃ visit next t log, Passes answer config store s raw visit next t log) ∨
      ∃ outcome t log, Ends answer config index store s raw outcome t log := by
  cases hskip : skipRequested store raw with
  | error e => exact .inr ⟨_, _, _, .failed (.skipping hskip)⟩
  | ok skips =>
    cases skips with
    | true => exact .inl ⟨_, _, _, _, .skipped hskip⟩
    | false =>
      cases hresolves : ofRawWith store raw with
      | error e => exact .inr ⟨_, _, _, .failed (.resolving hskip hresolves)⟩
      | ok step =>
        cases hroutes : Route.ofStep step with
        | error e => exact .inr ⟨_, _, _, .failed (.routing hskip hresolves hroutes)⟩
        | ok route =>
          cases hwaits : step.retryWait? with
          | none => exact .inr ⟨_, _, _, .overlongWait hskip hresolves hroutes hwaits⟩
          | some wait =>
            exact dispatched_spec answer config index s ⟨hskip, hresolves, hroutes, hwaits⟩

end Step

namespace Workflow

/-! ## Runs over steps -/

/-- The run gets past steps: with a visit for each, the store and the state of the backends after
them, and the exchanges. -/
inductive Passes (answer : Backends σ) (config : Config) :
    Store → σ → List RawStep → List Visit → Store → σ → List Exchange → Prop
  | nil {store : Store} {s : σ} : Passes answer config store s [] [] store s []
  | cons {store mid next : Store} {s t u : σ} {raw : RawStep} {rest : List RawStep}
    {visit : Visit} {visits : List Visit} {log later : List Exchange}
    (hstep : Step.Passes answer config store s raw visit mid t log)
    (hrest : Passes answer config mid t rest visits next u later) :
    Passes answer config store s (raw :: rest) (visit :: visits) next u (log ++ later)

/-- The run gets past some steps and ends at the next one, whatever steps follow. -/
inductive Ends (answer : Backends σ) (config : Config) (index : Nat) (store : Store) (s : σ) :
    List RawStep → Outcome → σ → List Exchange → Prop
  | at {before after : List RawStep} {raw : RawStep} {visits : List Visit} {mid : Store} {t u : σ}
    {outcome : Outcome} {log later : List Exchange}
    (hbefore : Passes answer config store s before visits mid t log)
    (hends : Step.Ends answer config (index + before.length) mid t raw outcome u later) :
    Ends answer config index store s (before ++ raw :: after) outcome u (log ++ later)

section

variable {answer : Backends σ} {config : Config} {index : Nat} {store next : Store} {s t : σ}
  {steps : List RawStep} {visits : List Visit} {outcome : Outcome} {log : List Exchange}

theorem Passes.run_append (h : Passes answer config store s steps visits next t log) (index : Nat)
    (after : List RawStep) :
    (runSteps config index store (steps ++ after)).run answer s =
        (runSteps config (index + steps.length) next after).run answer t ∧
      (runSteps config index store (steps ++ after)).history answer s =
        log ++ (runSteps config (index + steps.length) next after).history answer t := by
  induction h generalizing index with
  | nil => exact ⟨rfl, rfl⟩
  | @cons store mid next s t u raw rest visit visits log later hstep hrest ih =>
    obtain ⟨hrun, hhistory⟩ := hstep.run_eq index
    obtain ⟨ihrun, ihhistory⟩ := ih (index + 1)
    have hlength : index + (raw :: rest).length = index + 1 + rest.length := by
      simp only [List.length_cons]
      omega
    rw [List.cons_append, runSteps, Script.run_bind, Script.history_bind, hrun, hhistory, hlength,
      List.append_assoc, ← ihrun, ← ihhistory]
    exact ⟨rfl, rfl⟩

theorem Passes.run_eq (h : Passes answer config store s steps visits next t log) (index : Nat) :
    (runSteps config index store steps).run answer s = (.completed next, t) ∧
      (runSteps config index store steps).history answer s = log := by
  obtain ⟨hrun, hhistory⟩ := h.run_append index []
  rw [List.append_nil] at hrun hhistory
  exact ⟨hrun, hhistory.trans (List.append_nil log)⟩

theorem Ends.run_eq (h : Ends answer config index store s steps outcome t log) :
    (runSteps config index store steps).run answer s = (outcome, t) ∧
      (runSteps config index store steps).history answer s = log := by
  obtain ⟨hbefore, hends⟩ := h
  rename_i before after raw visits mid t log later
  obtain ⟨hrun, hhistory⟩ := hbefore.run_append index (raw :: after)
  obtain ⟨hstep, hlater⟩ := hends.run_eq
  rw [hrun, hhistory, runSteps, Script.run_bind, Script.history_bind, hstep, hlater]
  exact ⟨rfl, by rw [Script.history_done, List.append_nil]⟩

theorem Ends.append (h : Ends answer config index store s steps outcome t log)
    (after : List RawStep) : Ends answer config index store s (steps ++ after) outcome t log := by
  obtain ⟨hbefore, hends⟩ := h
  rw [List.append_assoc]
  exact .at hbefore hends

theorem Ends.store?_eq_none (h : Ends answer config index store s steps outcome t log) :
    outcome.store? = none := by
  obtain ⟨hbefore, hends⟩ := h
  exact hends.store?_eq_none

theorem Ends.cons {mid : Store} {u : σ} {raw : RawStep} {visit : Visit} {later : List Exchange}
    (hstep : Step.Passes answer config store s raw visit mid t log)
    (h : Ends answer config (index + 1) mid t steps outcome u later) :
    Ends answer config index store s (raw :: steps) outcome u (log ++ later) := by
  obtain ⟨hbefore, hends⟩ := h
  rename_i before after raw' visits mid' t' log' later'
  have hlength : index + 1 + before.length = index + (raw :: before).length := by
    simp only [List.length_cons]
    omega
  rw [hlength] at hends
  rw [← List.append_assoc, ← List.cons_append]
  exact .at (.cons hstep hbefore) hends

end

/-- A run over steps passes all of them, or ends at one of them. -/
theorem passes_or_ends (answer : Backends σ) (config : Config) (index : Nat) (store : Store)
    (s : σ) (steps : List RawStep) :
    (∃ visits next t log, Passes answer config store s steps visits next t log) ∨
      ∃ outcome t log, Ends answer config index store s steps outcome t log := by
  induction steps generalizing index store s with
  | nil => exact .inl ⟨_, _, _, _, .nil⟩
  | cons raw rest ih =>
    rcases Step.passes_or_ends answer config index store s raw with
      ⟨visit, mid, t, log, hstep⟩ | ⟨outcome, t, log, hends⟩
    · rcases ih (index + 1) mid t with
        ⟨visits, next, u, later, hrest⟩ | ⟨outcome, u, later, hrest⟩
      · exact .inl ⟨_, _, _, _, .cons hstep hrest⟩
      · exact .inr ⟨_, _, _, hrest.cons hstep⟩
    · have hfirst : Ends answer config index store s ([] ++ raw :: rest) outcome t ([] ++ log) :=
        .at .nil hends
      exact .inr ⟨outcome, t, log, hfirst⟩

/-! ## Runs of workflows -/

theorem run_of_resolved {w : Workflow} {overrides : Option Store} {initial : Store}
    (h : (Store.seeded w.params overrides).resolved = .ok initial) (config : Config) :
    w.run config overrides = runSteps config 0 initial w.steps := by
  rw [run, runFrom, h]

theorem run_of_unresolved {w : Workflow} {overrides : Option Store} {e : ResolveError}
    (h : (Store.seeded w.params overrides).resolved = .error e) (config : Config) :
    w.run config overrides = .done (.failed (.resolve e)) := by
  rw [run, runFrom, h]

/-- A run fails over its parameters before any step, passes all steps, or ends at one. -/
theorem run_cases (answer : Backends σ) (config : Config) (w : Workflow)
    (overrides : Option Store) (s : σ) :
    (∃ e, (Store.seeded w.params overrides).resolved = .error e ∧
      (w.run config overrides).run answer s = (.failed (.resolve e), s) ∧
      (w.run config overrides).history answer s = []) ∨
    (∃ initial visits final t log, (Store.seeded w.params overrides).resolved = .ok initial ∧
      Passes answer config initial s w.steps visits final t log ∧
      (w.run config overrides).run answer s = (.completed final, t) ∧
      (w.run config overrides).history answer s = log) ∨
    ∃ initial outcome t log, (Store.seeded w.params overrides).resolved = .ok initial ∧
      Ends answer config 0 initial s w.steps outcome t log ∧
      (w.run config overrides).run answer s = (outcome, t) ∧
      (w.run config overrides).history answer s = log := by
  cases hinitial : (Store.seeded w.params overrides).resolved with
  | error e =>
    rw [run_of_unresolved hinitial]
    exact .inl ⟨e, rfl, rfl, rfl⟩
  | ok initial =>
    rw [run_of_resolved hinitial]
    rcases passes_or_ends answer config 0 initial s w.steps with
      ⟨visits, final, t, log, hpasses⟩ | ⟨outcome, t, log, hends⟩
    · exact .inr (.inl ⟨initial, visits, final, t, log, rfl, hpasses, hpasses.run_eq 0⟩)
    · exact .inr (.inr ⟨initial, outcome, t, log, rfl, hends, hends.run_eq⟩)

end Workflow

end FlowRunner
