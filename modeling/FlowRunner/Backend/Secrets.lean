import FlowRunner.Backend.Effect

/-!
# Declared secrets

Secret documents that are known by name from the start, whoever asks for them.
-/

namespace FlowRunner

/-- Secret documents by name. -/
abbrev Secrets := List (String × List (String × Value))

namespace Secrets

/-- The document of a name. -/
def fetch (secrets : Secrets) (name : String) : Except BackendError (List (String × Value)) :=
  match Members.get? name secrets with
  | some document => .ok document
  | none => .error (.config ("secret '" ++ name ++ "' is not configured"))

end Secrets

/-- A program whose secrets are the declared ones; it asks nobody else for them. -/
def Script.withSecrets {α : Type} (secrets : Secrets) : Script α → Script α
  | .done value => .done value
  | .ask (.fetchSecret name _) next => (next (secrets.fetch name)).withSecrets secrets
  | .ask effect next => .ask effect fun reply => (next reply).withSecrets secrets

end FlowRunner
