import FlowRunner.Config
import FlowRunner.Run.Program

/-!
# Operations on databases

Each action is one SQL statement. Values are written into it as they are given, so a text literal
brings its own quotes.

* `Sql.statement` is the text of the statement. It is made before anything is asked for, and a
  statement that would change or delete every row is never made.
* The connection comes from a secret: entries named after the schema, or the user and password for a
  host that the step names.
-/

namespace FlowRunner

/-- What a step says about a statement. -/
structure Sql where
  table : Option String
  schema : Option String
  columns : String
  columnNames : List String
  columnValues : List String
  setNames : List String
  setValues : List String
  host : Option String
  secret : Option String
  role : Option String

namespace Sql

/-- A text that is not blank. -/
def notBlank (s : Option String) : Option String :=
  s.filter fun s => !(Text.trim s.toList).isEmpty

/-- The list of texts in a payload field. -/
def textsOf (step : Step) (key : String) : List String :=
  (step.items key).map Value.plain

/-- What a step says about a statement. -/
def ofStep (step : Step) : Sql where
  table := (notBlank (step.text? "table_name")).map Text.lowered
  schema := notBlank (step.text? "schema")
  columns :=
    match step.get? "columns" with
    | some (.list items) => ",".intercalate (items.map Value.plain)
    | some v => v.plain
    | none => "*"
  columnNames := textsOf step "column_names"
  columnValues := textsOf step "column_values"
  setNames := textsOf step "set_column_names"
  setValues := textsOf step "set_column_values"
  host := notBlank (step.text? "host_name")
  secret := notBlank (step.text? "secret_name")
  role := notBlank (step.text? "access_role")

/-! ## Statements -/

/-- The failure of lists that should be equally long. -/
def unequal (names values : String) : Failure :=
  .invalidParameter (names ++ " and " ++ values ++ " differ in length")

/-- Names and values side by side. -/
def pairs (names values : List String) : List String :=
  List.zipWith (fun name value => name ++ "=" ++ value) names values

/-- The conditions of a statement. -/
def conditions (sql : Sql) : Except Failure (List String) :=
  if sql.columnNames.length = sql.columnValues.length then
    .ok (pairs sql.columnNames sql.columnValues)
  else .error (unequal "column_names" "column_values")

/-- The clause that filters rows; empty without conditions. -/
def filter (sql : Sql) : Except Failure String := do
  let conditions ← sql.conditions
  if conditions.isEmpty then .ok "" else .ok (" where " ++ " and ".intercalate conditions)

/-- The clause that filters rows, which has to be there. -/
def requiredFilter (sql : Sql) : Except Failure String :=
  if sql.columnNames.isEmpty then .error (.missingParameter "column_names") else sql.filter

/-- The assignments of a statement, at least one. -/
def assignments (sql : Sql) : Except Failure String :=
  if sql.setNames.length = sql.setValues.length then
    if sql.setNames.isEmpty then .error (.missingParameter "set_column_names")
    else .ok (" , ".intercalate (pairs sql.setNames sql.setValues))
  else .error (unequal "set_column_names" "set_column_values")

/-- The statement of an action on a table. -/
def statementOn (sql : Sql) (table action : String) : Except Failure String :=
  match action with
  | "select" => do
    let clause ← sql.filter
    .ok ("select " ++ sql.columns ++ " from " ++ table ++ clause ++ " order by 1 desc limit 1")
  | "count" => do
    let clause ← sql.filter
    .ok ("select count(*) as count from " ++ table ++ clause ++ " order by 1 desc limit 1")
  | "insert" =>
    if sql.columnNames.length = sql.columnValues.length then
      .ok ("insert into " ++ table ++ " (" ++ ",".intercalate sql.columnNames ++ ") values (" ++
        ",".intercalate sql.columnValues ++ ")")
    else .error (unequal "column_names" "column_values")
  | "update" => do
    let assignments ← sql.assignments
    let clause ← sql.requiredFilter
    .ok ("update " ++ table ++ " set " ++ assignments ++ clause)
  | "deletedb" => do
    let clause ← sql.requiredFilter
    .ok ("delete from " ++ table ++ clause)
  | other => .error (.routing (.unsupported .database other))

/-- The statement of an action. -/
def statement (sql : Sql) (action : String) : Except Failure String :=
  match sql.table with
  | none => .error (.missingParameter "table_name")
  | some table => sql.statementOn table action

/-! ## Connections -/

/-- An entry of a secret as text. -/
def entry (name : String) (secret : List (String × Value)) (key : String) :
    Except Failure String :=
  match Members.get? key secret with
  | some v => .ok v.plain
  | none => .error (.config ("secret '" ++ name ++ "' has no '" ++ key ++ "' entry"))

/-- The connection that a secret gives. -/
def connectionFrom (sql : Sql) (name : String) (secret : List (String × Value)) :
    Except Failure Connection :=
  match sql.schema with
  | some schema => do
    let host ← entry name secret ("test_" ++ schema ++ "_host")
    let user ← entry name secret ("test_" ++ schema ++ "_user")
    let password ← entry name secret ("test_" ++ schema ++ "_password")
    .ok (.toHost host user password)
  | none =>
    match sql.host with
    | none => .error (.missingParameter "host_name or schema")
    | some host => do
      let user ← entry name secret "username"
      let password ← entry name secret "password"
      .ok (.toHost host user password)

/-- Looks up the secret and gives the connection. -/
def connection (sql : Sql) (config : Config.Database) : Program Connection := do
  let name := sql.secret.getD config.defaultSecret
  let secret ← Program.backend (.of (.fetchSecret name sql.role))
  ExceptT.mk (.done (sql.connectionFrom name secret))

/-! ## Actions -/

/-- What a statement that writes has done, as a value. -/
def summaryValue (summary : WriteSummary) : Value :=
  .object [
    ("rows_affected", .ofInt summary.rowsAffected),
    ("last_insert_id", .ofInt summary.lastInsertId)]

/-- Whether an action reads. -/
def reads (action : String) : Bool :=
  action == "select" || action == "count"

/-- Runs an action. -/
def run (config : Config.Database) (step : Step) (action : String) : Program Value := do
  let sql := ofStep step
  let text ← ExceptT.mk (.done (sql.statement action))
  let connection ← sql.connection config
  if reads action then
    let row ← Program.backend (.of (.fetchFirst connection text config.readTimeoutSecs))
    return (row.map Value.object).getD .null
  else
    let summary ← Program.backend (.of (.execute connection text config.writeTimeoutSecs))
    return summaryValue summary

end Sql

end FlowRunner
