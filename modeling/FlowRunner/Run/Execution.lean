import FlowRunner.Response.Extraction
import FlowRunner.Run.Attempt

/-!
# Running a workflow

Steps run in order over one store. A step is skipped, or resolved against the store, routed,
attempted, and its values are kept; it may end the run with its result. A failure carries the label
of its step.

A run is aborted by a step whose delay no duration can hold.
-/

namespace FlowRunner

/-- How a run ends. -/
inductive Outcome
  /-- Every step is done; the store as it is then. -/
  | completed (store : Store)
  /-- A step ended the run with its result. -/
  | returned (result : Value)
  | failed (failure : Failure)
  | aborted

/-- The store in which a run completes; nothing when it ends before. -/
def Outcome.store? : Outcome → Option Store
  | .completed store => some store
  | _ => none

/-- The failure of a run that fails. -/
def Outcome.failure? : Outcome → Option Failure
  | .failed failure => some failure
  | _ => none

/-- What a step leads to: the next step with a store, or the end of the run. -/
inductive Progress
  | next (store : Store)
  | ended (outcome : Outcome)

namespace Step

/-- The store with what a step asks for of its result. -/
def keep (step : Step) (store : Store) (result : Value) : Store :=
  match step.valueMap with
  | some valueMap => store.extract valueMap result
  | none => store

/-- Ends the run with the result of a step, or waits and goes on with what is kept of it. -/
def settle (store : Store) (step : Step) (result : Value) : Script Progress :=
  if step.returns then .done (.ended (.returned result))
  else
    match step.postDelay? with
    | some delay => Attempt.pause delay (.done (.next (step.keep store result)))
    | none => .done (.ended .aborted)

/-- Runs a resolved step that stands at a position. -/
def perform (config : Config) (index : Nat) (store : Store) (step : Step) : Script Progress :=
  let failed (failure : Failure) : Script Progress :=
    .done (.ended (.failed (.step (step.label index) failure)))
  match Route.ofStep step with
  | .error e => failed (.routing e)
  | .ok route =>
    match step.retryWait? with
    | none => .done (.ended .aborted)
    | some wait =>
      (Attempt.run config route step wait).bind fun outcome =>
        match outcome with
        | .ok result => settle store step result
        | .error failure => failed failure

/-- Runs a step as written that stands at a position. -/
def runRaw (config : Config) (index : Nat) (store : Store) (raw : RawStep) : Script Progress :=
  let failed (e : ResolveError) : Script Progress :=
    .done (.ended (.failed (.step (rawLabel raw index) (.resolve e))))
  match skipRequested store raw with
  | .error e => failed e
  | .ok true => .done (.next store)
  | .ok false =>
    match ofRawWith store raw with
    | .error e => failed e
    | .ok step => perform config index store step

end Step

namespace Workflow

/-- Runs steps, of which the first stands at a position. -/
def runSteps (config : Config) (index : Nat) (store : Store) : List RawStep → Script Outcome
  | [] => .done (.completed store)
  | raw :: rest =>
    (Step.runRaw config index store raw).bind fun progress =>
      match progress with
      | .next store => runSteps config (index + 1) store rest
      | .ended outcome => .done outcome

/-- Runs a workflow from a store that is still to be resolved. -/
def runFrom (config : Config) (w : Workflow) (store : Store) : Script Outcome :=
  match store.resolved with
  | .error e => .done (.failed (.resolve e))
  | .ok store => runSteps config 0 store w.steps

/-- Runs a workflow; the overrides win over its own parameters. -/
def run (config : Config) (w : Workflow) (overrides : Option Store) : Script Outcome :=
  w.runFrom config (.seeded w.params overrides)

end Workflow

end FlowRunner
