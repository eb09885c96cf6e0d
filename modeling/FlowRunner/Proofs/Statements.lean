import FlowRunner.Proofs.Placeholders
import FlowRunner.Proofs.Programs
import FlowRunner.Proofs.Refusals
import FlowRunner.Proofs.Sequence

/-!
# Statements that change rows

Every statement that a database is asked to run is the one that the step makes before anything is
asked for (`Sql.run_ensures`). So what holds of `Sql.statement` holds of all that reaches a database:
an update or a deletion has a condition for each column name of the step, and at least one
(`Sql.filtered_of_statement`). Where no such statement can be made, the step asks for nothing, not
even for the secret, and is not tried again (`Step.statements_filtered`).
-/

namespace FlowRunner

/-- The statement that a database is asked to run. -/
def Effect.sql? : Effect → Option String
  | .fetchFirst _ sql _ => some sql
  | .execute _ sql _ => some sql
  | _ => none

namespace Sql

/-! ## The statement of a step -/

/-- What the update or the deletion of a step starts with. -/
inductive Opening (sql : Sql) : (action opening : String) → Prop
  | update {table assignments : String} (htable : sql.table = some table)
    (hassignments : sql.assignments = .ok assignments) :
    Opening sql "update" ("update " ++ table ++ " set " ++ assignments)
  | delete {table : String} (htable : sql.table = some table) :
    Opening sql "deletedb" ("delete from " ++ table)

/-- A text is what an action starts with and a clause of conditions, one for each column name of the
step and its value. -/
structure Filtered (step : Step) (action text opening : String) (conditions : List String) :
    Prop where
  opens : Opening (ofStep step) action opening
  text_eq : text = opening ++ " where " ++ " and ".intercalate conditions
  conditions_eq : conditions = List.zipWith (fun name value => name.plain ++ "=" ++ value.plain)
    (step.items "column_names") (step.items "column_values")
  nonempty : conditions ≠ []
  names : conditions.length = (step.items "column_names").length
  values : (step.items "column_names").length = (step.items "column_values").length

/-- Whether an action changes rows that are there already. -/
def Changes (action : String) : Prop :=
  action = "update" ∨ action = "deletedb"

theorem lengths_of_conditions {sql : Sql} {conditions : List String}
    (h : sql.conditions = .ok conditions) :
    sql.columnNames.length = sql.columnValues.length ∧
      conditions = pairs sql.columnNames sql.columnValues := by
  unfold Sql.conditions at h
  split at h
  · rename_i hlengths
    cases h
    exact ⟨hlengths, rfl⟩
  · cases h

theorem lengths_of_filter {sql : Sql} {clause : String} (h : sql.filter = .ok clause) :
    sql.columnNames.length = sql.columnValues.length := by
  obtain ⟨conditions, hconditions, -⟩ := Except.bind_eq_ok_iff.mp h
  exact (lengths_of_conditions hconditions).1

theorem pairs_ne_nil {names values : List String} (hnames : names ≠ [])
    (hlengths : names.length = values.length) : pairs names values ≠ [] := by
  intro h
  have hlength := congrArg List.length h
  rw [pairs, List.length_zipWith, ← hlengths, min_self] at hlength
  exact hnames (List.length_eq_zero_iff.mp hlength)

theorem requiredFilter_eq_ok {sql : Sql} {clause : String} (h : sql.requiredFilter = .ok clause) :
    sql.columnNames ≠ [] ∧ sql.columnNames.length = sql.columnValues.length ∧
      clause = " where " ++ " and ".intercalate (pairs sql.columnNames sql.columnValues) := by
  unfold requiredFilter at h
  split at h
  · cases h
  · rename_i hsome
    have hnames : sql.columnNames ≠ [] := fun hnil => hsome (List.isEmpty_iff.mpr hnil)
    obtain ⟨conditions, hconditions, h⟩ := Except.bind_eq_ok_iff.mp h
    obtain ⟨hlengths, rfl⟩ := lengths_of_conditions hconditions
    rw [if_neg (mt List.isEmpty_iff.mp (pairs_ne_nil hnames hlengths))] at h
    exact ⟨hnames, hlengths, (Except.ok.inj h).symm⟩

/-- Every statement of an action that knows columns has as many names as values. -/
theorem lengths_of_statement {sql : Sql} {action text : String}
    (h : sql.statement action = .ok text) :
    sql.columnNames.length = sql.columnValues.length := by
  unfold statement at h
  split at h
  · cases h
  unfold statementOn at h
  split at h
  · obtain ⟨clause, hclause, -⟩ := Except.bind_eq_ok_iff.mp h
    exact lengths_of_filter hclause
  · obtain ⟨clause, hclause, -⟩ := Except.bind_eq_ok_iff.mp h
    exact lengths_of_filter hclause
  · split at h
    · assumption
    · cases h
  · obtain ⟨assignments, -, h⟩ := Except.bind_eq_ok_iff.mp h
    obtain ⟨clause, hclause, -⟩ := Except.bind_eq_ok_iff.mp h
    exact (requiredFilter_eq_ok hclause).2.1
  · obtain ⟨clause, hclause, -⟩ := Except.bind_eq_ok_iff.mp h
    exact (requiredFilter_eq_ok hclause).2.1
  · cases h

/-- The statement of an action that changes rows: what it starts with, and the clause. -/
theorem statement_of_changes {sql : Sql} {action text : String} (haction : Changes action)
    (h : sql.statement action = .ok text) :
    ∃ opening clause, Opening sql action opening ∧ sql.requiredFilter = .ok clause ∧
      text = opening ++ clause := by
  unfold statement at h
  split at h
  · cases h
  rename_i table htable
  rcases haction with rfl | rfl
  · obtain ⟨assignments, hassignments, h⟩ := Except.bind_eq_ok_iff.mp h
    obtain ⟨clause, hclause, h⟩ := Except.bind_eq_ok_iff.mp h
    exact ⟨_, clause, .update htable hassignments, hclause, (Except.ok.inj h).symm⟩
  · obtain ⟨clause, hclause, h⟩ := Except.bind_eq_ok_iff.mp h
    exact ⟨_, clause, .delete htable, hclause, (Except.ok.inj h).symm⟩

theorem filtered_of_statement {step : Step} {action text : String} (haction : Changes action)
    (h : (ofStep step).statement action = .ok text) :
    ∃ opening conditions, Filtered step action text opening conditions := by
  obtain ⟨opening, clause, hopening, hclause, rfl⟩ := statement_of_changes haction h
  obtain ⟨hnames, hlengths, rfl⟩ := requiredFilter_eq_ok hclause
  have hsome := pairs_ne_nil hnames hlengths
  simp only [ofStep, textsOf, List.length_map] at hlengths
  refine ⟨opening, _, hopening, ?_, ?_, hsome, ?_, hlengths⟩
  · rw [String.append_assoc]
  · simp only [ofStep, textsOf, pairs, List.zipWith_map]
  · simp [pairs, ofStep, textsOf, hlengths]

/-! ## What reaches a database -/

theorem connection_ensures (sql : Sql) (config : Config.Database) :
    (sql.connection config).run.Ensures fun log _ => ∀ x ∈ log, x.effect.sql? = none := by
  refine Program.ensures_backend_bind (Script.ensures_of _) ?_ ?_
  · rintro log secret rfl
    exact Script.ensures_done (List.forall_mem_singleton.mpr rfl)
  · rintro log e rfl
    exact List.forall_mem_singleton.mpr rfl

theorem ok_of_mem_append {log : List Exchange} {x : Exchange} {text : String}
    (hlog : ∀ y ∈ log, y.effect.sql? = none) (hx : x.effect.sql? = some text) :
    ∀ y ∈ log ++ [x], ∀ other ∈ y.effect.sql?,
      (Except.ok text : Except Failure String) = .ok other := by
  intro y hy other hother
  rcases List.mem_append.mp hy with hy | hy
  · rw [hlog y hy] at hother
    cases hother
  · rw [List.mem_singleton.mp hy] at hother
    rw [Option.some.inj (hx.symm.trans hother)]

/-- A database is asked to run the statement of the step and nothing else. -/
theorem run_ensures (config : Config.Database) (step : Step) (action : String) :
    (run config step action).run.Ensures fun log _ =>
      ∀ x ∈ log, ∀ text ∈ x.effect.sql?, (ofStep step).statement action = .ok text := by
  refine Program.ensures_mk_bind (fun text htext => ?_) fun _ _ => List.forall_mem_nil _
  rw [htext]
  refine Program.ensures_bind (connection_ensures (ofStep step) config) ?_ ?_
  · intro log connection hlog
    split
    · exact Program.ensures_backend_map _ fun _ _ _ => ok_of_mem_append hlog rfl
    · exact Program.ensures_backend_map _ fun _ _ _ => ok_of_mem_append hlog rfl
  · intro log failure hlog x hx other hother
    rw [hlog x hx] at hother
    cases hother

/-- A step without a statement is refused at once. -/
theorem invocation_of_error {config : Config} {step : Step} {action : String} {failure : Failure}
    (h : (ofStep step).statement action = .error failure) :
    Attempt.invocation config ⟨.database, action⟩ step = .done (.error failure) := by
  change (run config.database step action).run = _
  unfold run
  dsimp only
  rw [h]
  rfl

end Sql

namespace Step

variable {σ : Type} {store : Store} {raw : RawStep} {step : Step} {action : String}

theorem statement_of_mem_history (answer : Backends σ) (config : Config)
    (hresolves : ofRawWith store raw = .ok step)
    (hroutes : Route.ofStep step = .ok ⟨.database, action⟩) (index : Nat) (s : σ) :
    ∀ x ∈ (runRaw config index store raw).history answer s, ∀ text ∈ x.effect.sql?,
      (Sql.ofStep step).statement action = .ok text := by
  refine history_induction answer (fun log => ∀ x ∈ log, ∀ text ∈ x.effect.sql?,
    (Sql.ofStep step).statement action = .ok text) ?_ ?_ ?_ hresolves hroutes ?_ index s
  · exact List.forall_mem_nil _
  · intro log later hlog hlater
    exact List.forall_mem_append.mpr ⟨hlog, hlater⟩
  · intro time
    unfold Attempt.pauseHistory
    split
    · exact List.forall_mem_nil _
    · exact List.forall_mem_singleton.mpr fun text htext => nomatch htext
  · intro start
    exact Sql.run_ensures config.database step action σ answer start

theorem history_of_no_statement (answer : Backends σ) (config : Config)
    (hresolves : ofRawWith store raw = .ok step)
    (hroutes : Route.ofStep step = .ok ⟨.database, action⟩) {failure : Failure}
    (hstatement : (Sql.ofStep step).statement action = .error failure) (index : Nat) (s : σ) :
    (runRaw config index store raw).history answer s = [] := by
  have hrefuses : failure.Refuses :=
    (Sql.statement_errorsOnly (Sql.ofStep step) action failure hstatement).refuses
  cases hskip : skipRequested store raw with
  | error e =>
    unfold runRaw
    rw [hskip]
    rfl
  | ok skips =>
    cases skips with
    | true => exact (runRaw_of_skipped hskip answer config index s).2
    | false =>
      cases hwait : step.retryWait? with
      | none => exact (Ends.overlongWait hskip hresolves hroutes hwait).run_eq.2
      | some wait =>
        obtain ⟨hrun, hhistory⟩ := Attempt.run_of_refused
          (Sql.invocation_of_error hstatement) hrefuses wait s
        have hstep : Dispatched store raw step _ wait := ⟨hskip, hresolves, hroutes, hwait⟩
        exact (hstep.run_error hrun index).2.trans hhistory

/-- What reaches a database from an update or a deletion has a condition for each column name of the
step, and at least one. Without column names such a step asks for nothing; neither does any step
whose names and values differ in number. -/
theorem statements_filtered (answer : Backends σ) (config : Config)
    (hresolves : ofRawWith store raw = .ok step)
    (hroutes : Route.ofStep step = .ok ⟨.database, action⟩) (index : Nat) (s : σ) :
    (Sql.Changes action → ∀ x ∈ (runRaw config index store raw).history answer s,
      ∀ text ∈ x.effect.sql?, ∃ opening conditions,
        Sql.Filtered step action text opening conditions) ∧
    (Sql.Changes action ∧ step.items "column_names" = [] ∨
        (step.items "column_names").length ≠ (step.items "column_values").length →
      (runRaw config index store raw).history answer s = []) := by
  constructor
  · intro haction x hx text htext
    exact Sql.filtered_of_statement haction
      (statement_of_mem_history answer config hresolves hroutes index s x hx text htext)
  · intro hunfit
    cases hstatement : (Sql.ofStep step).statement action with
    | error failure =>
      exact history_of_no_statement answer config hresolves hroutes hstatement index s
    | ok text =>
      -- A statement that could be made would have as many conditions as there are names.
      exfalso
      rcases hunfit with ⟨haction, hnames⟩ | hlengths
      · obtain ⟨opening, conditions, hfiltered⟩ := Sql.filtered_of_statement haction hstatement
        have hlength := hfiltered.names
        rw [hnames] at hlength
        exact hfiltered.nonempty (List.length_eq_zero_iff.mp hlength)
      · have hequal := Sql.lengths_of_statement hstatement
        simp only [Sql.ofStep, Sql.textsOf, List.length_map] at hequal
        exact hlengths hequal

/-- A step that deletes the orders that its parameters tell. -/
def deleteOrders : RawStep :=
  [("action", .text "<<verb>>"), ("table_name", .text "<<table>>"), ("retry", .ofInt 3),
    ("column_names", .text "<<names>>"), ("column_values", .text "<<values>>"),
    ("host_name", .text "<<host>>"), ("secret_name", .text "<<reader>>")]

/-- The parameters of the step, with these names. -/
def orderStore (names : Value) : Store :=
  .ofPairs [("verb", .text "deletedb"), ("table", .text "Orders"), ("host", .text "db"),
    ("reader", .text "reader"), ("names", names), ("values", .list [.ofInt 7, .text "'open'"])]

/-- The step with its parameters. -/
def orderStep (names : Value) : Step where
  action := "deletedb"
  retry := 3
  payload := [("table_name", .text "Orders"), ("column_names", names),
    ("column_values", .list [.ofInt 7, .text "'open'"]), ("host_name", .text "db"),
    ("secret_name", .text "reader")]

/-- What the step asks for on a stage that knows the secret. -/
def orderHistory (names : Value) : List Exchange :=
  (runRaw {} 0 (orderStore names) deleteOrders).history Stage.answer
    { Stage.empty with
      secrets := [("reader", [("username", .text "u"), ("password", .text "p")])], sql := some [] }

theorem statements_filtered_orders :
    (∃ x ∈ orderHistory (.list [.text "id", .text "state"]),
      x.effect.sql? = some "delete from orders where id=7 and state='open'") ∧
      (∃ opening conditions, Sql.Filtered (orderStep (.list [.text "id", .text "state"])) "deletedb"
        "delete from orders where id=7 and state='open'" opening conditions) ∧
      orderHistory .null = [] := by
  have hroute : Route.find "deletedb" none = .ok ⟨.database, "deletedb"⟩ := by decide +kernel
  have hroutes : ∀ names, Route.ofStep (orderStep names) = .ok ⟨.database, "deletedb"⟩ :=
    fun _ => hroute
  have hasked : ∃ x ∈ orderHistory (.list [.text "id", .text "state"]),
      x.effect.sql? = some "delete from orders where id=7 and state='open'" := by
    decide +kernel
  refine ⟨hasked, ?_, ?_⟩
  · obtain ⟨x, hx, htext⟩ := hasked
    exact (statements_filtered Stage.answer {} rfl (hroutes _) 0 _).1 (.inr rfl) x hx _ htext
  · exact (statements_filtered Stage.answer {} rfl (hroutes .null) 0 _).2 (.inl ⟨.inr rfl, rfl⟩)

end Step

end FlowRunner
