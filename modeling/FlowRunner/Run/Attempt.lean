import FlowRunner.Operation.Dispatch
import FlowRunner.Response.Expectation

/-!
# Attempts

A step is tried until an attempt succeeds, fails in a way that would only repeat, or is the last one
allowed. An attempt succeeds when its operation does and the result is as expected; both kinds of
failure use up the same attempts.
-/

namespace FlowRunner

namespace Attempt

/-- The most attempts that are ever made. -/
def limit : Nat := 4294967295

/-- How many attempts a step is allowed. -/
def allowed (step : Step) : Nat :=
  min (step.retry + 1) limit

/-- The result, when it is as the step expects. -/
def check (step : Step) (result : Value) : Except Failure Value :=
  match step.expected with
  | none => .ok result
  | some expected =>
    match Mismatch.find? expected result with
    | none => .ok result
    | some m => .error (.mismatch m)

/-- One attempt. -/
def once (config : Config) (route : Route) (step : Step) : Script (Except Failure Value) :=
  (route.family.run config step route.action).run.bind fun outcome =>
    .done (outcome.bind (check step))

/-- Waits, unless there is no time to wait for, and goes on. -/
def pause {α : Type} (wait : Duration) (next : Script α) : Script α :=
  if wait.isZero then next else .ask (.sleep wait) fun _ => next

/-- Tries until an attempt settles the matter, with so many more attempts allowed after the first
one. -/
def repeated (attempt : Script (Except Failure Value)) (wait : Duration) :
    (more : Nat) → Script (Except Failure Value)
  | 0 => attempt
  | more + 1 => attempt.bind fun outcome =>
    match outcome with
    | .ok result => .done (.ok result)
    | .error failure =>
      if failure.retryable then pause wait (repeated attempt wait more)
      else .done (.error failure)

/-- Runs a step with the attempts that it is allowed. -/
def run (config : Config) (route : Route) (step : Step) (wait : Duration) :
    Script (Except Failure Value) :=
  repeated (once config route step) wait (allowed step - 1)

end Attempt

end FlowRunner
