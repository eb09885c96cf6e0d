import FlowRunner.Config
import FlowRunner.Run.Program

/-!
# Operations on cloud services

Object storage, batch jobs, secrets, functions, queues and analytics queries. Every call is made in
the access role of the step.

* `Batch.poll` watches a job until it has settled or the time is up; a job that may still be running
  then is cancelled or terminated.
* `Athena.poll` watches a query until it has ended or the polls are used up.
* `Athena.records` turns rows under a header into objects.
-/

namespace FlowRunner

namespace Cloud

/-- The access role of a step. -/
def roleOf (step : Step) : Option String :=
  (step.text? "access_role").filter fun role => !role.isEmpty

/-! ## Object storage -/

/-- Stores a local file. -/
def upload (step : Step) : Program Value := do
  let filename ← Program.required step "filename"
  let bucket ← Program.required step "first_bucket_name"
  let key := (step.text? "key").getD "" ++ filename
  let body ← Program.file filename (.of (.readFile filename))
  Program.backend (.of (.putObject bucket key body (roleOf step)))
  return .bool true

/-- Fetches a stored text, and keeps it in a local file when one is named. -/
def download (step : Step) : Program Value := do
  let bucket ← Program.required step "bucket"
  let key ← Program.required step "key"
  let text ← Program.backend (.of (.getObject bucket key (roleOf step)))
  match step.text? "filename" with
  | some filename =>
    Program.file filename (.of (.writeFile filename text.toUTF8))
    return .text text
  | none => return .text text

/-! ## Batch jobs -/

namespace Batch

/-- The states that a job stays in. -/
def settled : List String := ["SUCCEEDED", "FAILED"]

/-- The states of a job that waits to be run. -/
def waiting : List String := ["SUBMITTED", "PENDING", "RUNNABLE"]

/-- The states of a job that runs. -/
def running : List String := ["STARTING", "STARTED", "RUNNING"]

/-- Stops a job in a state, if it waits or runs. Whether that works changes nothing. -/
def stop (id : String) (role : Option String) (status : String) : Program Unit := do
  if waiting.contains status then
    let _ ← Program.attempt (.cancelJob id "Cancelling job due to timeout" role)
    return ()
  else if running.contains status then
    let _ ← Program.attempt (.terminateJob id "Terminating job due to timeout" role)
    return ()
  else return ()

/-- The result of a job that ended in a state. -/
def resultOf (id expected status : String) : Except Failure Value :=
  if status = expected then .ok (.object [("job_id", .text id), ("status", .text status)])
  else
    .error (.backend (.cloud
      ("Job " ++ id ++ " status is not as expected. Current status is " ++ status)))

/-- Watches a job, for so many more polls after this one. -/
def poll (id expected : String) (role : Option String) (interval : Duration) :
    (more : Nat) → Program Value
  | 0 => do
    let status ← Program.backend (.of (.jobStatus id role))
    finish (status.getD "")
  | more + 1 => do
    let status ← Program.backend (.of (.jobStatus id role))
    if settled.contains (status.getD "") then finish (status.getD "")
    else
      Program.sleep interval
      poll id expected role interval more
where
  /-- Stops the job and gives the result. -/
  finish (status : String) : Program Value := do
    stop id role status
    ExceptT.mk (.done (resultOf id expected status))

/-- The command of a step: the texts of a list, or one text. -/
def commandOf (step : Step) : Option (List String) :=
  match step.get? "command" with
  | some (.list parts) => some (parts.map Value.plain)
  | some v => some [v.plain]
  | none => none

/-- Submits a job and watches it. -/
def run (config : Config.Batch) (step : Step) : Program Value := do
  let name ← Program.required step "job_name"
  let queue ← Program.required step "job_queue"
  let definition ← Program.required step "job_definition"
  let role := roleOf step
  let id ← Program.backend (.of (.submitJob ⟨name, queue, definition, commandOf step⟩ role))
  let wait := (step.natural? "waitTime").getD config.defaultWait
  let expected := (step.text? "status").getD "SUCCEEDED"
  poll id expected role (.ofSecs config.pollIntervalSecs) (wait + 1)

end Batch

/-! ## Secrets, functions and queues -/

/-- Gives a secret document. -/
def secret (step : Step) : Program Value := do
  let name ← Program.required step "secret_name"
  let document ← Program.backend (.of (.fetchSecret name (roleOf step)))
  return .object document

/-- Invokes a function. -/
def callFunction (step : Step) : Program Value := do
  let name ← Program.required step "function_name"
  let kind := (step.text? "invocation_type").getD "RequestResponse"
  let payload := (step.get? "payload").getD (.object [])
  Program.backend (.of (.invokeFunction name kind payload (roleOf step)))

/-- Sends messages to a queue. -/
def sendMessages (step : Step) : Program Value := do
  let queue ← Program.required step "queue_name"
  let messages := (step.items "messages").map Value.plain
  Program.backend (.of (.sendMessages queue messages (roleOf step)))
  return .null

/-- Receives messages from a queue. -/
def receiveMessages (config : Config.Queue) (step : Step) : Program Value := do
  let queue ← Program.required step "queue_name"
  let wanted := (step.natural? "max_message_count").filter (Reading.fits 32)
  let most := wanted.getD config.defaultMaxMessages
  let bodies ←
    Program.backend (.of (.receiveMessages queue most config.waitTimeSecs (roleOf step)))
  return .ofTexts bodies

/-! ## Analytics queries -/

namespace Athena

/-- A row under a header: each column with its cell, null when there is none. -/
def record (header row : List (Option String)) : Value :=
  .object (Members.ofPairs (header.mapIdx fun index column =>
    (column.getD "", ((row[index]?.bind id).map Value.text).getD .null)))

/-- The rows after the header, each as an object. -/
def records : List (List (Option String)) → Value
  | [] => .list []
  | header :: rows => .list (rows.map (record header))

/-- Watches a query, for at most so many polls. -/
def poll (id : String) (role : Option String) (interval : Duration) :
    (polls : Nat) → Program Value
  | 0 => return .bool false
  | polls + 1 => do
    let state ← Program.backend (.of (.queryState id role))
    match state with
    | .failed => return .bool false
    | .cancelled => return .bool false
    | .succeeded =>
      let rows ← Program.backend (.of (.queryRows id role))
      return records rows
    | .queued =>
      Program.sleep interval
      poll id role interval polls
    | .running =>
      Program.sleep interval
      poll id role interval polls

/-- Starts a query, and waits for its rows when the step asks for that. -/
def run (config : Config.Athena) (step : Step) : Program Value := do
  let text ← Program.required step "query"
  let query : Query :=
    ⟨text, (step.text? "database").getD "default", "s3://" ++ (step.text? "bucket").getD ""⟩
  let role := roleOf step
  let id ← Program.backend (.of (.startQuery query role))
  if step.truth "wait" then
    poll id role (.ofSecs config.pollIntervalSecs) config.maxPolls
  else return .text id

end Athena

/-- Runs an action. -/
def run (config : Config) (step : Step) (action : String) : Program Value :=
  match action with
  | "s3upload" => upload step
  | "s3download" => download step
  | "batch" => Batch.run config.batch step
  | "secrets" => secret step
  | "calllambda" => callFunction step
  | "sendsqs" => sendMessages step
  | "receivesqs" => receiveMessages config.queue step
  | "athena" => Athena.run config.athena step
  | other => Program.fail (.routing (.unsupported .cloud other))

end Cloud

end FlowRunner
