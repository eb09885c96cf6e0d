import FlowRunner.Operation.Api
import FlowRunner.Operation.Cloud
import FlowRunner.Operation.Database
import FlowRunner.Operation.File
import FlowRunner.Operation.Messaging

/-!
# Dispatch

An action is run by the family it is routed to.
-/

namespace FlowRunner

/-- Runs an action of a family once. -/
def Family.run (family : Family) (config : Config) (step : Step) (action : String) :
    Program Value :=
  match family with
  | .api => Api.run step action
  | .database => Sql.run config.database step action
  | .file => TextFile.run step action
  | .cloud => Cloud.run config step action
  | .messaging => Event.run config.kafka step action

end FlowRunner
