import FlowRunner.Flow.Step
import FlowRunner.Text.Cut

/-!
# Families and routing

Every action belongs to one of five families of operations. A step may name the family itself;
otherwise the table of actions decides. Either way the family has to own the action.

`Workflow.unroutable` finds the steps whose action has no place, as far as that is known before
placeholders are resolved.
-/

namespace FlowRunner

/-- A family of operations. -/
inductive Family
  | api
  | database
  | file
  | cloud
  | messaging
  deriving DecidableEq, Repr

namespace Family

/-- The name of a family. -/
def name : Family → String
  | api => "api"
  | database => "database"
  | file => "file"
  | cloud => "cloud"
  | messaging => "messaging"

/-- The actions and the families that own them. -/
def actions : List (String × Family) := [
  ("get", api),
  ("post", api),
  ("put", api),
  ("patch", api),
  ("delete", api),
  ("graphql", api),
  ("select", database),
  ("insert", database),
  ("update", database),
  ("deletedb", database),
  ("count", database),
  ("read", file),
  ("write", file),
  ("s3upload", cloud),
  ("s3download", cloud),
  ("batch", cloud),
  ("secrets", cloud),
  ("calllambda", cloud),
  ("sendsqs", cloud),
  ("receivesqs", cloud),
  ("athena", cloud),
  ("send_event", messaging),
  ("read_event", messaging)]

/-- The names that a step may call a family by. -/
def aliases : List (String × Family) := [
  ("api", api),
  ("http", api),
  ("db", database),
  ("database", database),
  ("file", file),
  ("data", file),
  ("cloud", cloud),
  ("aws", cloud),
  ("messaging", messaging),
  ("kafka", messaging),
  ("kafkahandler", messaging)]

/-- The family that owns an action. -/
def ofAction? (action : String) : Option Family :=
  actions.lookup action

/-- The family of a name, in any case and with blanks around it. -/
def ofName? (name : String) : Option Family :=
  aliases.lookup (Text.lowered (Text.trimmed name))

/-- The actions that a family owns. -/
def owned (family : Family) : List String :=
  (actions.filter fun entry => entry.2 == family).map Prod.fst

end Family

/-- Why a step has no place to go. -/
inductive RoutingError
  | unknownFamily (name : String)
  | unknownAction (action : String)
  | unsupported (family : Family) (action : String)
  deriving DecidableEq, Repr

/-- The wording of the error. -/
def RoutingError.message : RoutingError → String
  | .unknownFamily name => "Unknown operation family '" ++ name ++ "'"
  | .unknownAction action => "No operation family handles action '" ++ action ++ "'"
  | .unsupported family action =>
    "Operation family '" ++ family.name ++ "' has no action '" ++ action ++ "'"

/-- An action with the family that runs it. -/
structure Route where
  family : Family
  action : String
  deriving DecidableEq, Repr

namespace Route

/-- How messages name a route. -/
def text (route : Route) : String :=
  route.family.name ++ "/" ++ route.action

/-- The route of an action, with the family that the step names, if it names one. -/
def find (action : String) (family : Option String) : Except RoutingError Route := do
  let action := Text.lowered (Text.trimmed action)
  let named := (family.map Text.trimmed).filter fun name => !name.isEmpty
  let family ←
    match named with
    | some name =>
      match Family.ofName? name with
      | some family => .ok family
      | none => .error (RoutingError.unknownFamily name)
    | none =>
      match Family.ofAction? action with
      | some family => .ok family
      | none => .error (RoutingError.unknownAction action)
  if family.owned.contains action then .ok ⟨family, action⟩
  else .error (.unsupported family action)

/-- The route of a step. -/
def ofStep (step : Step) : Except RoutingError Route :=
  find step.action step.family

end Route

namespace Workflow

/-- Whether a text holds the start of a placeholder. -/
def hasPlaceholder (s : String) : Bool :=
  Text.occursIn ['<', '<'] s.toList

/-- Why a raw step cannot be routed; nothing when it can, or when that depends on a placeholder. -/
def routingError? (raw : RawStep) : Option RoutingError :=
  let text (key : String) : Option String := (Members.get? key raw).bind Value.asText?
  let action := (text "action").getD ""
  let family := text "type"
  if hasPlaceholder action || (family.map hasPlaceholder).getD false then none
  else
    match Route.find action family with
    | .ok _ => none
    | .error e => some e

/-- The steps that cannot be routed, from a position on. -/
def unroutableFrom (index : Nat) : List RawStep → List (Nat × RoutingError)
  | [] => []
  | raw :: rest =>
    match routingError? raw with
    | some e => (index, e) :: unroutableFrom (index + 1) rest
    | none => unroutableFrom (index + 1) rest

/-- The steps that cannot be routed, with their positions. -/
def unroutable (w : Workflow) : List (Nat × RoutingError) :=
  unroutableFrom 0 w.steps

end Workflow

end FlowRunner
