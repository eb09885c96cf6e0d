import FlowRunner.Proofs.OperationFailures
import FlowRunner.Proofs.Passage

/-!
# Where a failure comes from

A run fails in two ways. Resolving the parameters fails, before anything is asked for, and the
failure has no label; or the run gets past some steps and the next one fails, and the failure has
exactly one label, that of this step (`Workflow.failure_origin`). What a step itself fails with has
no label, because operations never put one (`Family.run_failsOnly`) and a step is labelled only
where the run ends. Writing a result to a log cannot fail: every value has a text.
-/

namespace FlowRunner

variable {σ : Type}

/-- Whether a failure has the label of a step. -/
def Failure.labelled : Failure → Bool
  | .step .. => true
  | _ => false

theorem Failure.OfOperation.unlabelled {family : Family} {action : String} {failure : Failure}
    (h : failure.OfOperation family action) : failure.labelled = false := by
  cases failure with
  | step label cause => exact h.elim
  | _ => rfl

/-- A step fails by its operation or because a result is not as expected. -/
theorem Attempt.failure_of_run {answer : Backends σ} {config : Config} {route : Route}
    {step : Step} {wait : Duration} {s t : σ} {failure : Failure}
    (h : (run config route step wait).run answer s = (.error failure, t)) :
    failure.OfOperation route.family route.action ∨ ∃ m, failure = .mismatch m := by
  obtain ⟨start, hstart⟩ := exists_run_eq answer config route step wait s
  have hoperation := route.family.run_failsOnly config step route.action σ answer start
  have hcheck := congrArg Prod.fst (hstart.symm.trans h)
  cases hreply : ((invocation config route step).run answer start).1 with
  | error cause =>
    rw [hreply] at hcheck
    cases hcheck
    exact .inl (hoperation failure hreply)
  | ok result =>
    rw [hreply] at hcheck
    exact .inr (check_eq_error hcheck)

theorem Attempt.unlabelled_of_run {answer : Backends σ} {config : Config} {route : Route}
    {step : Step} {wait : Duration} {s t : σ} {failure : Failure}
    (h : (run config route step wait).run answer s = (.error failure, t)) :
    failure.labelled = false := by
  rcases failure_of_run h with hoperation | ⟨m, rfl⟩
  · exact hoperation.unlabelled
  · rfl

theorem Step.Fails.unlabelled {answer : Backends σ} {config : Config} {index : Nat}
    {store : Store} {s t : σ} {raw : RawStep} {label : String} {cause : Failure}
    {log : List Exchange} (h : Fails answer config index store s raw label cause t log) :
    cause.labelled = false := by
  cases h with
  | skipping hskip => rfl
  | resolving hstays hresolves => rfl
  | routing hstays hresolves hroutes => rfl
  | dispatch hstep hrun => exact Attempt.unlabelled_of_run hrun

namespace Workflow

/-- A failed run has failed over its parameters, without a label and before anything was asked
for, or it has passed some steps and its failure is that of the next one with that step's label
alone. -/
theorem failure_origin {answer : Backends σ} {config : Config} {w : Workflow}
    {overrides : Option Store} {s : σ} {failure : Failure}
    (hfailed : ((w.run config overrides).run answer s).1 = .failed failure) :
    (∃ e, failure = .resolve e ∧ (Store.seeded w.params overrides).resolved = .error e ∧
      (w.run config overrides).history answer s = []) ∨
    ∃ initial before raw after visits store t log label cause u later,
      (Store.seeded w.params overrides).resolved = .ok initial ∧
      w.steps = before ++ raw :: after ∧
      Passes answer config initial s before visits store t log ∧
      Step.Fails answer config before.length store t raw label cause u later ∧
      failure = .step label cause ∧ cause.labelled = false := by
  rcases run_cases answer config w overrides s with
    ⟨e, hinitial, hrun, hhistory⟩ | ⟨initial, visits, final, t, log, -, -, hrun, -⟩ |
      ⟨initial, outcome, u, whole, hinitial, hends, hrun, -⟩
  · rw [hrun] at hfailed
    cases hfailed
    exact .inl ⟨e, rfl, hinitial, hhistory⟩
  · rw [hrun] at hfailed
    cases hfailed
  · rw [hrun] at hfailed
    cases hfailed
    generalize hsteps : w.steps = steps at hends
    obtain ⟨hbefore, hat⟩ := hends
    rename_i before after raw visits store t log later
    rw [Nat.zero_add] at hat
    generalize houtcome : Outcome.failed failure = outcome at hat
    cases hat with
    | failed hfails =>
      cases houtcome
      exact .inr ⟨_, _, _, _, _, _, _, _, _, _, _, _, hinitial, rfl, hbefore, hfails, rfl,
        hfails.unlabelled⟩
    | returned hstep hrun hreturns => cases houtcome
    | overlongWait hstays hresolves hroutes hwait => cases houtcome
    | overlongDelay hstep hrun hstays hdelay => cases houtcome

/-- A workflow whose second step has its action and its name from parameters; no family owns the
action. -/
def strayAction : Workflow where
  name := none
  params := .ofPairs [("verb", .text "ftp"), ("who", .text "bob")]
  steps := [
    [("action", .text "<<verb>>"), ("skip_step", .bool true)],
    [("action", .text "<<verb>>"), ("step name", .text "<<who>>"), ("step", .text "<<verb>>")]]

theorem strayAction_failure_origin :
    ∃ failure, ((strayAction.run {} none).run Stage.answer Stage.empty).1 = .failed failure ∧
      ((∃ e, failure = .resolve e ∧
        (Store.seeded strayAction.params none).resolved = .error e ∧
        (strayAction.run {} none).history Stage.answer Stage.empty = []) ∨
      ∃ initial before raw after visits store t log label cause u later,
        (Store.seeded strayAction.params none).resolved = .ok initial ∧
        strayAction.steps = before ++ raw :: after ∧
        Passes Stage.answer {} initial Stage.empty before visits store t log ∧
        Step.Fails Stage.answer {} before.length store t raw label cause u later ∧
        failure = .step label cause ∧ cause.labelled = false) := by
  have hfails : ((strayAction.run {} none).run Stage.answer Stage.empty).1.failure?.isSome =
      true := by decide +kernel
  obtain ⟨failure, hfailed⟩ := Outcome.exists_failed hfails
  exact ⟨failure, hfailed, failure_origin hfailed⟩

example : ((strayAction.run {} none).run Stage.answer Stage.empty).1.failure?.map
    Failure.message = some "step ftp bob failed: No operation family handles action 'ftp'" := by
  decide +kernel

end Workflow

end FlowRunner
