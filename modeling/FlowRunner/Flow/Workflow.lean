import FlowRunner.Shape.OfValue
import FlowRunner.Shape.OfJson
import FlowRunner.Shape.OfYaml
import FlowRunner.Config
import FlowRunner.Flow.Store

/-!
# Workflows

A workflow is a list of steps and the seed of the parameter store. Its steps stay as written,
because what they mean is known only once their placeholders are resolved.
-/

namespace FlowRunner

/-- A step as written. -/
abbrev RawStep := List (String × Value)

/-- A workflow. -/
structure Workflow where
  name : Option String
  params : Store
  steps : List RawStep
  deriving Inhabited

namespace Workflow

/-- The name shown for a workflow. -/
def displayName (w : Workflow) : String :=
  w.name.getD "unnamed flow"

/-- The form of a workflow. -/
def shape : Shape :=
  .record "Workflow" [
    .mk "flow name" ["name"] .optionalText .null,
    .mk "param_store" [] (.map .anything) (.object []),
    .mk "steps" [] (.list (.map .anything)) (.list [])]

/-- The workflow of a value that has its form. -/
def ofRecord (v : Value) : Workflow where
  name := (v.member? "flow name").bind Value.asText?
  params := .ofPairs (v.membersAt "param_store")
  steps :=
    match v.member? "steps" with
    | some (.list items) => items.filterMap fun
      | .object members => some members
      | _ => none
    | _ => []

/-- The workflow as a value. -/
def toValue (w : Workflow) : Value :=
  .object [
    ("flow name", (w.name.map Value.text).getD .null),
    ("param_store", w.params.toValue),
    ("steps", .list (w.steps.map .object))]

/-- The workflow that a value gives. -/
def ofValue (v : Value) : Except Misfit Workflow :=
  (shape.ofValue v).map ofRecord

/-- The workflow that a JSON text gives. -/
def ofJson (text : String) : Except Json.Fault Workflow :=
  (shape.ofJson text).map ofRecord

/-- The workflow that a YAML text gives; an empty text gives one without steps. -/
def ofYaml? (text : String) : Option Workflow :=
  (shape.ofYaml? text).map ofRecord

end Workflow

end FlowRunner
