import FlowRunner.Backend.Error
import FlowRunner.Flow.Placeholder
import FlowRunner.Flow.Routing
import FlowRunner.Response.Expectation

/-!
# Failures of a run

Why a step or a whole run fails. Some failures would only repeat: what the step asks for is wrong.
The others are worth another attempt (`Failure.retryable`).
-/

namespace FlowRunner

/-- Why a run fails. -/
inductive Failure
  /-- The text of a workflow is not YAML of its form. -/
  | yaml (text : String)
  /-- The text of a workflow is not JSON of its form. -/
  | json (text : String)
  | resolve (error : ResolveError)
  | backend (error : BackendError)
  | routing (error : RoutingError)
  | missingParameter (name : String)
  | invalidParameter (text : String)
  | status (expected actual : Nat) (url body : String)
  | mismatch (mismatch : Mismatch)
  | timeout (text : String)
  | file (path text : String)
  | config (text : String)
  /-- A failure with the label of its step. -/
  | step (label : String) (cause : Failure)

namespace Failure

/-- The wording of a failure. -/
def message : Failure → String
  | .yaml text => "Parse error: " ++ text
  | .json text => "JSON error: " ++ text
  | .resolve error => "Expression error: " ++ error.message
  | .backend error => "Bridge error: " ++ error.message
  | .routing error => error.message
  | .missingParameter name => "Missing required parameter: " ++ name
  | .invalidParameter text => "Invalid parameter: " ++ text
  | .status expected actual url body =>
    "Expected status " ++ toString expected ++ ", but got " ++ toString actual ++ " from " ++ url ++
      ": " ++ body
  | .mismatch m => "Validation failed: " ++ m.message
  | .timeout text => "Timed out: " ++ text
  | .file path text => "IO error on " ++ path ++ ": " ++ text
  | .config text => "Configuration error: " ++ text
  | .step label cause => label ++ " failed: " ++ cause.message

/-- Whether another attempt of the same step could succeed. -/
def retryable : Failure → Bool
  | .yaml _ => false
  | .json _ => false
  | .resolve _ => false
  | .routing _ => false
  | .missingParameter _ => false
  | .invalidParameter _ => false
  | .config _ => false
  | .backend error => error.retryable
  | .step _ cause => cause.retryable
  | .status .. => true
  | .mismatch _ => true
  | .timeout _ => true
  | .file .. => true

/-- The failure inside all labels. -/
def root : Failure → Failure
  | .step _ cause => cause.root
  | failure => failure

end Failure

end FlowRunner
