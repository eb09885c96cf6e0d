import FlowRunner.Shape.OfValue
import FlowRunner.Shape.OfYaml
import FlowRunner.Text.Blank

/-!
# Runner configuration

Settings of the backends, in sections. Every field has a default, so a blank text is a configuration
too. Times are in seconds.
-/

namespace FlowRunner

namespace Value

/-- The natural number under a key; zero when there is none. -/
def naturalAt (key : String) (v : Value) : Nat :=
  match v.member? key with
  | some (.number n) => n.natural?.getD 0
  | _ => 0

/-- The text under a key; empty when there is none. -/
def textAt (key : String) (v : Value) : String :=
  match v.member? key with
  | some (.text s) => s
  | _ => ""

/-- The texts in the list under a key. -/
def textsAt (key : String) (v : Value) : List String :=
  match v.member? key with
  | some (.list items) => items.filterMap asText?
  | _ => []

/-- The members of the object under a key. -/
def membersAt (key : String) (v : Value) : List (String × Value) :=
  match v.member? key with
  | some (.object members) => members
  | _ => []

/-- The section under a key; null when there is none. -/
def sectionAt (key : String) (v : Value) : Value :=
  (v.member? key).getD .null

end Value

/-- Fields whose defaults are the members of a default record. -/
def Field.withDefaults (default : Value) (fields : List (String × Shape)) : List Field :=
  fields.map fun (name, shape) => .mk name [] shape (default.sectionAt name)

namespace Config

/-- Settings of HTTP requests. -/
structure Http where
  timeoutSecs : Nat := 30

/-- Settings of databases. -/
structure Database where
  /-- The secret looked up when a step names none. -/
  defaultSecret : String := "test/urf-db-credentials"
  connectTimeoutSecs : Nat := 60
  /-- How long a statement that reads may take. -/
  readTimeoutSecs : Nat := 60
  /-- How long a statement that writes may take. -/
  writeTimeoutSecs : Nat := 30
  /-- Secret documents by name. -/
  secrets : List (String × List (String × Value)) := []

/-- Settings of cloud credentials. -/
structure Aws where
  region : String := "us-west-2"
  /-- The profile used outside of CI. -/
  profile : String := "default"
  /-- The environment variable that is `true` in CI. -/
  ciEnv : String := "GITLAB_CI"
  /-- The environment variable with the account that owns the roles. -/
  accountEnv : String := "AWS_ACCOUNT_NONPROD"
  /-- The environment variable that stands for `{group}` in the cross role. -/
  groupEnv : String := "GITLAB_GROUP"
  /-- The role assumed first in CI. -/
  crossRole : String := "gl-\x7bgroup\x7d-cross-role"

/-- Settings of batch jobs. -/
structure Batch where
  pollIntervalSecs : Nat := 10
  /-- The polls before giving up when a step does not say. -/
  defaultWait : Nat := 90

/-- Settings of analytics queries. -/
structure Athena where
  pollIntervalSecs : Nat := 1
  maxPolls : Nat := 1800

/-- Settings of queues. -/
structure Queue where
  waitTimeSecs : Nat := 20
  defaultMaxMessages : Nat := 10

/-- Settings of events. -/
structure Kafka where
  brokers : List String := []
  clientId : String := "automation-consumer"
  defaultGroupId : String := "automation-consumer-group"
  /-- How long a matching event is waited for. -/
  readTimeoutSecs : Nat := 60

/-- A number of seconds, or another count, as a value. -/
def count (n : Nat) : Value :=
  .ofInt n

namespace Http

/-- The section as a value. -/
def toValue (c : Http) : Value :=
  .object [("timeout_secs", count c.timeoutSecs)]

/-- The form of the section. -/
def shape : Shape :=
  .record "HttpConfig" (Field.withDefaults (toValue {}) [("timeout_secs", .natural 64)])

/-- The section of a value that has its form. -/
def ofRecord (v : Value) : Http where
  timeoutSecs := v.naturalAt "timeout_secs"

end Http

namespace Database

/-- The section as a value; the secrets are in the order of their names. -/
def toValue (c : Database) : Value :=
  let secrets := c.secrets.mergeSort fun a b => decide (a.1 ≤ b.1)
  .object [
    ("default_secret", .text c.defaultSecret),
    ("connect_timeout_secs", count c.connectTimeoutSecs),
    ("read_timeout_secs", count c.readTimeoutSecs),
    ("write_timeout_secs", count c.writeTimeoutSecs),
    ("secrets", .object (secrets.map fun secret => (secret.1, .object secret.2)))]

/-- The form of the section. -/
def shape : Shape :=
  .record "DatabaseConfig" (Field.withDefaults (toValue {}) [
    ("default_secret", .text),
    ("connect_timeout_secs", .natural 64),
    ("read_timeout_secs", .natural 64),
    ("write_timeout_secs", .natural 64),
    ("secrets", .map (.map .anything))])

/-- The section of a value that has its form. -/
def ofRecord (v : Value) : Database where
  defaultSecret := v.textAt "default_secret"
  connectTimeoutSecs := v.naturalAt "connect_timeout_secs"
  readTimeoutSecs := v.naturalAt "read_timeout_secs"
  writeTimeoutSecs := v.naturalAt "write_timeout_secs"
  secrets := (v.membersAt "secrets").filterMap fun
    | (name, .object document) => some (name, document)
    | _ => none

end Database

namespace Aws

/-- The section as a value. -/
def toValue (c : Aws) : Value :=
  .object [
    ("region", .text c.region),
    ("profile", .text c.profile),
    ("ci_env", .text c.ciEnv),
    ("account_env", .text c.accountEnv),
    ("group_env", .text c.groupEnv),
    ("cross_role", .text c.crossRole)]

/-- The form of the section. -/
def shape : Shape :=
  .record "AwsConfig" (Field.withDefaults (toValue {}) [
    ("region", .text),
    ("profile", .text),
    ("ci_env", .text),
    ("account_env", .text),
    ("group_env", .text),
    ("cross_role", .text)])

/-- The section of a value that has its form. -/
def ofRecord (v : Value) : Aws where
  region := v.textAt "region"
  profile := v.textAt "profile"
  ciEnv := v.textAt "ci_env"
  accountEnv := v.textAt "account_env"
  groupEnv := v.textAt "group_env"
  crossRole := v.textAt "cross_role"

end Aws

namespace Batch

/-- The section as a value. -/
def toValue (c : Batch) : Value :=
  .object [
    ("poll_interval_secs", count c.pollIntervalSecs),
    ("default_wait", count c.defaultWait)]

/-- The form of the section. -/
def shape : Shape :=
  .record "BatchConfig" (Field.withDefaults (toValue {}) [
    ("poll_interval_secs", .natural 64),
    ("default_wait", .natural 64)])

/-- The section of a value that has its form. -/
def ofRecord (v : Value) : Batch where
  pollIntervalSecs := v.naturalAt "poll_interval_secs"
  defaultWait := v.naturalAt "default_wait"

end Batch

namespace Athena

/-- The section as a value. -/
def toValue (c : Athena) : Value :=
  .object [
    ("poll_interval_secs", count c.pollIntervalSecs),
    ("max_polls", count c.maxPolls)]

/-- The form of the section. -/
def shape : Shape :=
  .record "AthenaConfig" (Field.withDefaults (toValue {}) [
    ("poll_interval_secs", .natural 64),
    ("max_polls", .natural 64)])

/-- The section of a value that has its form. -/
def ofRecord (v : Value) : Athena where
  pollIntervalSecs := v.naturalAt "poll_interval_secs"
  maxPolls := v.naturalAt "max_polls"

end Athena

namespace Queue

/-- The section as a value. -/
def toValue (c : Queue) : Value :=
  .object [
    ("wait_time_secs", count c.waitTimeSecs),
    ("default_max_messages", count c.defaultMaxMessages)]

/-- The form of the section. -/
def shape : Shape :=
  .record "QueueConfig" (Field.withDefaults (toValue {}) [
    ("wait_time_secs", .natural 64),
    ("default_max_messages", .natural 32)])

/-- The section of a value that has its form. -/
def ofRecord (v : Value) : Queue where
  waitTimeSecs := v.naturalAt "wait_time_secs"
  defaultMaxMessages := v.naturalAt "default_max_messages"

end Queue

namespace Kafka

/-- The section as a value. -/
def toValue (c : Kafka) : Value :=
  .object [
    ("brokers", .ofTexts c.brokers),
    ("client_id", .text c.clientId),
    ("default_group_id", .text c.defaultGroupId),
    ("read_timeout_secs", count c.readTimeoutSecs)]

/-- The form of the section. -/
def shape : Shape :=
  .record "KafkaConfig" (Field.withDefaults (toValue {}) [
    ("brokers", .list .text),
    ("client_id", .text),
    ("default_group_id", .text),
    ("read_timeout_secs", .natural 64)])

/-- The section of a value that has its form. -/
def ofRecord (v : Value) : Kafka where
  brokers := v.textsAt "brokers"
  clientId := v.textAt "client_id"
  defaultGroupId := v.textAt "default_group_id"
  readTimeoutSecs := v.naturalAt "read_timeout_secs"

end Kafka

end Config

/-- The whole configuration of a runner. -/
structure Config where
  http : Config.Http := {}
  database : Config.Database := {}
  aws : Config.Aws := {}
  batch : Config.Batch := {}
  athena : Config.Athena := {}
  queue : Config.Queue := {}
  kafka : Config.Kafka := {}

namespace Config

/-- The configuration as a value. -/
def toValue (c : Config) : Value :=
  .object [
    ("http", c.http.toValue),
    ("database", c.database.toValue),
    ("aws", c.aws.toValue),
    ("batch", c.batch.toValue),
    ("athena", c.athena.toValue),
    ("queue", c.queue.toValue),
    ("kafka", c.kafka.toValue)]

/-- The form of a configuration. -/
def shape : Shape :=
  .record "RunnerConfig" (Field.withDefaults (toValue {}) [
    ("http", Http.shape),
    ("database", Database.shape),
    ("aws", Aws.shape),
    ("batch", Batch.shape),
    ("athena", Athena.shape),
    ("queue", Queue.shape),
    ("kafka", Kafka.shape)])

/-- The configuration of a value that has its form. -/
def ofRecord (v : Value) : Config where
  http := .ofRecord (v.sectionAt "http")
  database := .ofRecord (v.sectionAt "database")
  aws := .ofRecord (v.sectionAt "aws")
  batch := .ofRecord (v.sectionAt "batch")
  athena := .ofRecord (v.sectionAt "athena")
  queue := .ofRecord (v.sectionAt "queue")
  kafka := .ofRecord (v.sectionAt "kafka")

/-- The configuration that a value gives. -/
def ofValue (v : Value) : Except Misfit Config :=
  (shape.ofValue v).map ofRecord

/-- The configuration that a YAML text gives; a blank text gives the defaults. -/
def ofYaml? (text : String) : Option Config :=
  if (Text.trim text.toList).isEmpty then some {} else (shape.ofYaml? text).map ofRecord

end Config

end FlowRunner
