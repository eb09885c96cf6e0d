import FlowRunner.Backend.Effect
import FlowRunner.Text.Utf8

/-!
# Records of calls

The calls that a program makes to backends, in order, as values: each is a list that starts with the
name of the call. What a program does with files and time is no call.
-/

namespace FlowRunner

/-- Something that is put on record. -/
inductive Entry
  | asked (effect : Effect)
  /-- An event, a failure or the end came from a subscription. -/
  | delivered

namespace Entry

/-- Bytes as a value: their text, or an object with their hexadecimal digits. -/
def bytesValue (bytes : ByteArray) : Value :=
  match Text.ofBytes? bytes with
  | some s => .text s
  | none =>
    let digit (n : Nat) : Char := if n < 10 then Char.ofNat (48 + n) else Char.ofNat (87 + n)
    let digits := bytes.toList.flatMap fun b => [digit (b.toNat / 16), digit (b.toNat % 16)]
    .object [("hex", .text (String.ofList digits))]

/-- A connection as a value. -/
def connectionValue (c : Connection) : Value :=
  .object [
    ("host", .text c.host),
    ("port", .ofInt c.port),
    ("user", .text c.user),
    ("password", .text c.password)]

/-- A text that may be missing, as a value. -/
def optionalValue (s : Option String) : Value :=
  (s.map Value.text).getD .null

/-- The headers of a request as they are compared: names in lower case and in order, without those
that belong to the connection. -/
def headersValue (headers : List (String × String)) : Value :=
  let own := ["host", "accept", "content-length", "connection", "proxy-connection",
    "transfer-encoding", "referer"]
  let lower := headers.map fun h => (String.ofList (h.1.toList.map Char.toLower), h.2)
  let kept := (lower.filter fun h => !own.contains h.1).mergeSort fun a b => decide (a.1 ≤ b.1)
  .list (kept.map fun h => .ofTexts [h.1, h.2])

/-- The record of an effect; nothing for what is no call. -/
def effectValue? : Effect → Option Value
  | .fetchSecret name role =>
    some (.list [.text "fetch_secret", .text name, optionalValue role])
  | .fetchFirst c sql timeout =>
    some (.list [.text "fetch_first", connectionValue c, .text sql, .ofInt timeout])
  | .execute c sql timeout =>
    some (.list [.text "execute", connectionValue c, .text sql, .ofInt timeout])
  | .putObject bucket key body role =>
    some (.list [.text "put_object", .text bucket, .text key, bytesValue body, optionalValue role])
  | .getObject bucket key role =>
    some (.list [.text "get_object", .text bucket, .text key, optionalValue role])
  | .submitJob job role =>
    some (.list [.text "submit_job", .text job.name, .text job.queue, .text job.definition,
      (job.command.map Value.ofTexts).getD .null, optionalValue role])
  | .jobStatus id role => some (.list [.text "job_status", .text id, optionalValue role])
  | .cancelJob id reason role =>
    some (.list [.text "cancel_job", .text id, .text reason, optionalValue role])
  | .terminateJob id reason role =>
    some (.list [.text "terminate_job", .text id, .text reason, optionalValue role])
  | .invokeFunction name kind payload role =>
    some (.list [.text "invoke_function", .text name, .text kind, payload, optionalValue role])
  | .sendMessages queue messages role =>
    some (.list [.text "send_messages", .text queue, .ofTexts messages, optionalValue role])
  | .receiveMessages queue most wait role =>
    some (.list [.text "receive_messages", .text queue, .ofInt most, .ofInt wait,
      optionalValue role])
  | .startQuery query role =>
    some (.list [.text "start_query", .text query.text, .text query.database,
      .text query.outputLocation, optionalValue role])
  | .queryState id role => some (.list [.text "query_state", .text id, optionalValue role])
  | .queryRows id role => some (.list [.text "query_rows", .text id, optionalValue role])
  | .publish topic event => some (.list [.text "publish", .text topic, event])
  | .subscribe topic group => some (.list [.text "subscribe", .text topic, .text group])
  | .close => some (.list [.text "close"])
  | .request r =>
    some (.list [.text "http", .text r.method, .text r.url, headersValue r.headers,
      .text (r.body.getD "")])
  | .nextEvent _ => none
  | .readFile _ => none
  | .writeFile .. => none
  | .fileKind _ => none
  | .listDirectory _ => none
  | .sleep _ => none

/-- The record of an entry. -/
def value? : Entry → Option Value
  | .asked effect => effectValue? effect
  | .delivered => some (.list [.text "next_event"])

end Entry

end FlowRunner
