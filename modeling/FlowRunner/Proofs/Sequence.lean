import FlowRunner.Proofs.Passage

/-!
# Workflows one after another

A run over a list of steps is a run over its first part and, only when that completes, a run over
the rest from the store and the backends that the first part leaves. A run that ends early does
not look at the steps behind the one it ends at.

* `Workflow.run_append_of_ended`, `Workflow.run_append_of_completed`: the two cases.
* `Step.runRaw_of_skipped`: a skipped step does nothing.
* `Workflow.run_withSteps_append`: all of it.
-/

namespace FlowRunner

variable {σ : Type}

theorem Step.runRaw_of_skipped {store : Store} {raw : RawStep}
    (hskip : skipRequested store raw = .ok true) (answer : Backends σ) (config : Config)
    (index : Nat) (s : σ) :
    (runRaw config index store raw).run answer s = (.next store, s) ∧
      (runRaw config index store raw).history answer s = [] :=
  Passes.run_eq (.skipped hskip) index

namespace Workflow

/-- The workflow with other steps. -/
def withSteps (w : Workflow) (steps : List RawStep) : Workflow :=
  { w with steps }

theorem run_withSteps_of_resolved (w : Workflow) {overrides : Option Store} {initial : Store}
    (h : (Store.seeded w.params overrides).resolved = .ok initial) (config : Config)
    (steps : List RawStep) :
    (w.withSteps steps).run config overrides = runSteps config 0 initial steps :=
  @run_of_resolved (w.withSteps steps) overrides initial h config

theorem run_withSteps_of_unresolved (w : Workflow) {overrides : Option Store} {e : ResolveError}
    (h : (Store.seeded w.params overrides).resolved = .error e) (config : Config)
    (steps : List RawStep) :
    (w.withSteps steps).run config overrides = .done (.failed (.resolve e)) :=
  @run_of_unresolved (w.withSteps steps) overrides e h config

variable (answer : Backends σ) (config : Config) (w : Workflow) (before after : List RawStep)
  (overrides : Option Store) (s : σ)

theorem run_append_of_ended
    (hended : (((w.withSteps before).run config overrides).run answer s).1.store? = none) :
    ((w.withSteps (before ++ after)).run config overrides).run answer s =
        ((w.withSteps before).run config overrides).run answer s ∧
      ((w.withSteps (before ++ after)).run config overrides).history answer s =
        ((w.withSteps before).run config overrides).history answer s := by
  rcases run_cases answer config (w.withSteps before) overrides s with
    ⟨e, hinitial, -, -⟩ | ⟨initial, visits, final, t, log, -, -, hrun, -⟩ |
      ⟨initial, outcome, t, log, hinitial, hends, hrun, hhistory⟩
  · rw [run_withSteps_of_unresolved w hinitial, run_withSteps_of_unresolved w hinitial]
    exact ⟨rfl, rfl⟩
  · rw [hrun] at hended
    cases hended
  · rw [hrun, hhistory, run_withSteps_of_resolved w hinitial]
    exact (hends.append after).run_eq

theorem run_append_of_completed {store : Store} {t : σ}
    (hcompleted :
      ((w.withSteps before).run config overrides).run answer s = (.completed store, t)) :
    ((w.withSteps (before ++ after)).run config overrides).run answer s =
        (runSteps config before.length store after).run answer t ∧
      ((w.withSteps (before ++ after)).run config overrides).history answer s =
        ((w.withSteps before).run config overrides).history answer s ++
          (runSteps config before.length store after).history answer t := by
  rcases run_cases answer config (w.withSteps before) overrides s with
    ⟨e, -, hrun, -⟩ | ⟨initial, visits, final, u, log, hinitial, hpasses, hrun, hhistory⟩ |
      ⟨initial, outcome, u, log, -, hends, hrun, -⟩
  · cases hrun.symm.trans hcompleted
  · cases hrun.symm.trans hcompleted
    rw [hhistory, run_withSteps_of_resolved w hinitial]
    have happend := hpasses.run_append 0 after
    rwa [Nat.zero_add] at happend
  · have hstore := hends.store?_eq_none
    cases hrun.symm.trans hcompleted
    cases hstore

/-- Running steps and then more steps: when the first part does not complete, the rest changes
nothing; when it does, the rest runs from where it stopped, with positions counted on. A skipped
step changes neither the store nor the backends and asks for nothing. -/
theorem run_withSteps_append :
    ((((w.withSteps before).run config overrides).run answer s).1.store? = none →
      ((w.withSteps (before ++ after)).run config overrides).run answer s =
          ((w.withSteps before).run config overrides).run answer s ∧
        ((w.withSteps (before ++ after)).run config overrides).history answer s =
          ((w.withSteps before).run config overrides).history answer s) ∧
    (∀ store t,
      ((w.withSteps before).run config overrides).run answer s = (.completed store, t) →
      ((w.withSteps (before ++ after)).run config overrides).run answer s =
          (runSteps config before.length store after).run answer t ∧
        ((w.withSteps (before ++ after)).run config overrides).history answer s =
          ((w.withSteps before).run config overrides).history answer s ++
            (runSteps config before.length store after).history answer t) ∧
    ∀ index store t raw, Step.skipRequested store raw = .ok true →
      (Step.runRaw config index store raw).run answer t = (.next store, t) ∧
        (Step.runRaw config index store raw).history answer t = [] :=
  ⟨run_append_of_ended answer config w before after overrides s,
    fun _ _ => run_append_of_completed answer config w before after overrides s,
    fun index _ t _ hskip => Step.runRaw_of_skipped hskip answer config index t⟩

/-- A step that reads a file. -/
def readStep (path : String) : RawStep :=
  [("action", .text "read"), ("filename", .text path)]

theorem run_withSteps_append_missingFile :
    (((Workflow.withSteps default [readStep "missing"]).run {} none).run Stage.answer
        Stage.empty).1.store? = none ∧
      ((Workflow.withSteps default [readStep "missing", readStep "other"]).run {} none).run
          Stage.answer Stage.empty =
        ((Workflow.withSteps default [readStep "missing"]).run {} none).run Stage.answer
          Stage.empty := by
  have hended : (((Workflow.withSteps default [readStep "missing"]).run {} none).run Stage.answer
      Stage.empty).1.store? = none := by decide +kernel
  have happend := run_withSteps_append Stage.answer {} default [readStep "missing"]
    [readStep "other"] none Stage.empty
  exact ⟨hended, (happend.1 hended).1⟩

end Workflow

end FlowRunner
