import FlowRunner.Backend.Secrets
import FlowRunner.Rehearsal.Client
import FlowRunner.Rehearsal.FileTree
import FlowRunner.Rehearsal.Record

/-!
# Rehearsals

A rehearsal runs a program against backends that play a script, files that are kept in memory and a
clock that only programs move. `Stage` is what all of them remember, and `Stage.answer` answers an
effect.

* Replies of a script are used up from the front, unless it is said that the last one repeats.
* Time passes in whole milliseconds: a wait is over at the first one at which it can be.
* A subscription gives its items one by one (`Stage.nextEvent`). An item that comes at the very end
  of the waiting is still in time.
-/

namespace FlowRunner

/-- A reply of a database: a failure, or what it answers to either kind of statement. -/
structure SqlReply where
  failure : Option BackendError
  row : Option (List (String × Value))
  summary : WriteSummary

/-- Cloud services that play a script. -/
structure CloudScript where
  /-- For each kind of call, whether its next uses fail. -/
  failures : List (String × List (Option BackendError))
  objects : List ((String × String) × ByteArray)
  jobId : String
  /-- The states of a job; the last one repeats. -/
  jobStatuses : List (Option String)
  functionResponse : Value
  /-- The messages in every queue; receiving does not use them up. -/
  inbox : List String
  /-- The states of a query; the last one repeats. -/
  queryStates : List QueryState
  queryRows : List (List (Option String))

/-- Something that comes from a subscription after some time: an event, the end (`none`), or a
failure. -/
structure Delivery where
  after : Duration
  content : Except BackendError (Option Value)

/-- Events that play a script. -/
structure EventScript where
  publishFailures : List (Option BackendError)
  subscribeFailures : List (Option BackendError)
  closeFailures : List (Option BackendError)
  subscriptions : List (List Delivery)
  /-- What the open subscription has yet to deliver. -/
  pending : List Delivery
  /-- Whether closing the open subscription fails. -/
  closing : Option BackendError

/-- What the backends of a rehearsal remember. -/
structure Stage where
  secrets : Secrets
  /-- The replies of the databases; nothing when there is no way to any. -/
  sql : Option (List SqlReply)
  cloud : Option CloudScript
  events : Option EventScript
  /-- The replies of the network; nothing when there is no network. -/
  network : Option (List NetworkReply)
  files : FileTree
  /-- What is on record, last entry first. -/
  entries : List Entry
  /-- The milliseconds that have passed. -/
  elapsed : Nat

namespace Stage

/-- A stage with nothing on it, at the start of time. -/
def empty : Stage where
  secrets := []
  sql := none
  cloud := none
  events := none
  network := none
  files := .empty
  entries := []
  elapsed := 0

/-- Puts an entry on record. -/
def note (s : Stage) (entry : Entry) : Stage :=
  { s with entries := entry :: s.entries }

/-- Lets time pass. -/
def pass (s : Stage) (millis : Nat) : Stage :=
  { s with elapsed := s.elapsed + millis }

/-- The record of calls, in order. -/
def calls (s : Stage) : List Value :=
  s.entries.reverse.filterMap Entry.value?

/-! ## Queues of replies -/

/-- The next item of a queue of which the last one repeats, and the queue after it. -/
def nextRepeating {α : Type} : List α → Option α × List α
  | [] => (none, [])
  | [a] => (some a, [a])
  | a :: rest => (some a, rest)

/-- The next failure of a queue, if there is one, and the queue after it. -/
def nextFailure : List (Option BackendError) → Option BackendError × List (Option BackendError)
  | [] => (none, [])
  | failure :: rest => (failure, rest)

/-- An answer that is a failure if there is one. -/
def valueUnless {α : Type} (failure : Option BackendError) (value : α) : Except BackendError α :=
  match failure with
  | some e => .error e
  | none => .ok value

/-! ## Databases -/

/-- The next reply of a database. -/
def nextSql (s : Stage) : Except BackendError SqlReply × Stage :=
  match s.sql with
  | none => (.error .noDatabase, s)
  | some [] => (.ok ⟨none, none, ⟨0, 0⟩⟩, s)
  | some (reply :: rest) =>
    (valueUnless reply.failure reply, { s with sql := some rest })

/-! ## Cloud services -/

/-- Answers a call of a kind to the cloud services, which is put on record first. -/
def onCloud {α : Type} (s : Stage) (effect : Effect) (kind : String)
    (reply : CloudScript → Except BackendError α × CloudScript) : Except BackendError α × Stage :=
  match s.cloud with
  | none => (.error .noCloud, s)
  | some script =>
    let s := s.note (.asked effect)
    let (failure, rest) := nextFailure ((script.failures.lookup kind).getD [])
    let script := { script with
      failures := (kind, rest) :: script.failures.filter fun entry => entry.1 != kind }
    match failure with
    | some e => (.error e, { s with cloud := some script })
    | none =>
      let (value, script) := reply script
      (value, { s with cloud := some script })

/-! ## Events -/

/-- Publishes an event. -/
def publish (s : Stage) (effect : Effect) : Except BackendError Unit × Stage :=
  match s.events with
  | none => (.error .noEvents, s)
  | some script =>
    let (failure, rest) := nextFailure script.publishFailures
    (valueUnless failure (), { s.note (.asked effect) with
      events := some { script with publishFailures := rest } })

/-- Opens a subscription. -/
def subscribe (s : Stage) (effect : Effect) : Except BackendError Unit × Stage :=
  match s.events with
  | none => (.error .noEvents, s)
  | some script =>
    let s := s.note (.asked effect)
    let (failure, rest) := nextFailure script.subscribeFailures
    let script := { script with subscribeFailures := rest }
    match failure with
    | some e => (.error e, { s with events := some script })
    | none =>
      let (closing, closeFailures) := nextFailure script.closeFailures
      (.ok (), { s with events := some { script with
        pending := script.subscriptions.head?.getD []
        subscriptions := script.subscriptions.drop 1
        closing
        closeFailures } })

/-- Waits for the next item of the open subscription; when there is none, until patience is over.
What comes after this one counts as at hand. -/
def nextEvent (s : Stage) (left : Patience) : Except BackendError (Arrival left) × Stage :=
  match s.events with
  | none => (.error .noEvents, s)
  | some script =>
    match script.pending with
    | [] => (.ok .late, s.pass left.time.millisUp)
    | delivery :: rest =>
      let s := { s with events := some { script with pending := rest } }
      let wait := delivery.after.millisUp
      if left.time.millisUp < wait then (.ok .late, s.pass left.time.millisUp)
      else
        let s := (s.pass wait).note .delivered
        match delivery.content with
        | .error e => (.error e, s)
        | .ok none => (.ok .ended, s)
        | .ok (some event) => (.ok (.ofEvent left event (.ofMillis wait) rest.length), s)

/-- Closes the open subscription. -/
def close (s : Stage) : Except BackendError Unit × Stage :=
  match s.events with
  | none => (.error .noEvents, s)
  | some script => (valueUnless script.closing (), s.note (.asked .close))

/-! ## Everything -/

/-- Sends a request. -/
def request (s : Stage) (request : HttpRequest) : Except HttpFailure HttpReply × Stage :=
  match request.written with
  | .error text => (.error (.refused text), s)
  | .ok written =>
    match s.network with
    | none => (.error written.unanswered, s)
    | some [] => (.error written.unanswered, s.note (.asked (.request written)))
    | some (reply :: rest) =>
      (reply.read, { s.note (.asked (.request written)) with network := some rest })

/-- Answers an effect. -/
def answer (effect : Effect) (s : Stage) : effect.Reply × Stage :=
  match effect with
  | .fetchSecret name role => (s.secrets.fetch name, s.note (.asked (.fetchSecret name role)))
  | .fetchFirst c sql timeout =>
    let (reply, s) := (s.note (.asked (.fetchFirst c sql timeout))).nextSql
    (reply.map (·.row), s)
  | .execute c sql timeout =>
    let (reply, s) := (s.note (.asked (.execute c sql timeout))).nextSql
    (reply.map (·.summary), s)
  | .putObject bucket key body role =>
    s.onCloud (.putObject bucket key body role) "put_object" fun script =>
      (.ok (), { script with objects := ((bucket, key), body) :: script.objects })
  | .getObject bucket key role =>
    s.onCloud (.getObject bucket key role) "get_object" fun script =>
      match script.objects.lookup (bucket, key) with
      | some body => (.ok (Text.ofBytesLossy body), script)
      | none => (.error (.cloud ("NoSuchKey: " ++ key)), script)
  | .submitJob job role =>
    s.onCloud (.submitJob job role) "submit_job" fun script => (.ok script.jobId, script)
  | .jobStatus id role =>
    s.onCloud (.jobStatus id role) "job_status" fun script =>
      let (status, rest) := nextRepeating script.jobStatuses
      (.ok (status.bind fun s => s), { script with jobStatuses := rest })
  | .cancelJob id reason role =>
    s.onCloud (.cancelJob id reason role) "cancel_job" fun script => (.ok (), script)
  | .terminateJob id reason role =>
    s.onCloud (.terminateJob id reason role) "terminate_job" fun script => (.ok (), script)
  | .invokeFunction name kind payload role =>
    s.onCloud (.invokeFunction name kind payload role) "invoke_function" fun script =>
      (.ok script.functionResponse, script)
  | .sendMessages queue messages role =>
    s.onCloud (.sendMessages queue messages role) "send_messages" fun script => (.ok (), script)
  | .receiveMessages queue most wait role =>
    s.onCloud (.receiveMessages queue most wait role) "receive_messages" fun script =>
      (.ok (script.inbox.take most), script)
  | .startQuery query role =>
    s.onCloud (.startQuery query role) "start_query" fun script => (.ok "query-1", script)
  | .queryState id role =>
    s.onCloud (.queryState id role) "query_state" fun script =>
      let (state, rest) := nextRepeating script.queryStates
      (.ok (state.getD .running), { script with queryStates := rest })
  | .queryRows id role =>
    s.onCloud (.queryRows id role) "query_rows" fun script => (.ok script.queryRows, script)
  | .publish topic event => s.publish (.publish topic event)
  | .subscribe topic group => s.subscribe (.subscribe topic group)
  | .nextEvent left => s.nextEvent left
  | .close => s.close
  | .request request => s.request request
  | .readFile path => (s.files.read path, s)
  | .writeFile path content =>
    let (reply, files) := s.files.write path content
    (reply, { s with files })
  | .fileKind path => (s.files.kind? path, s)
  | .listDirectory path => (s.files.list path, s)
  | .sleep time => ((), s.pass time.millisUp)

/-- Runs a program. -/
def play {α : Type} (program : Script α) (s : Stage) : α × Stage :=
  program.run answer s

/-- The time that has passed, to the nearest hundredth of a second, in milliseconds. -/
def waited (s : Stage) : Nat :=
  (s.elapsed + 5) / 10 * 10

end Stage

end FlowRunner
