import FlowRunner.Proofs.Statements

/-!
# Names and values of a statement

The names and the values that a step gives stand side by side in its statement: one text for each
position, in order, with the name and the value at that position (`Sql.Paired`). Lists that are not
as long as each other are refused, so nothing is left out at the end of the longer one.

What is refused differs by action. Reading needs no condition, an insertion puts names and values
into lists of their own, and an update needs an assignment and a condition
(`Sql.statements_paired`, `Sql.unfiltered_update_refused`).
-/

namespace FlowRunner

namespace Sql

/-! ## Lists of a step -/

/-- The texts that a step gives under a key: none when the field is missing or null, those of the
items of a list, and that of anything else as a single one. -/
inductive Lists (step : Step) (key : String) : List String → Prop
  | absent (h : step.get? key = none) : Lists step key []
  | list {items : List Value} (h : step.get? key = some (.list items)) :
    Lists step key (items.map Value.plain)
  | single {v : Value} (h : step.get? key = some v) (hsingle : ∀ items, v ≠ .list items) :
    Lists step key [v.plain]

theorem lists_iff {step : Step} {key : String} {texts : List String} :
    Lists step key texts ↔ texts = textsOf step key := by
  unfold textsOf Step.items
  constructor
  · intro h
    cases h with
    | absent h => rw [h, List.map_nil]
    | list h => rw [h]
    | @single v h hsingle =>
      rw [h]
      cases v with
      | list items => exact absurd rfl (hsingle items)
      | _ => rfl
  · rintro rfl
    cases h : step.get? key with
    | none => exact .absent h
    | some v =>
      cases v with
      | list items => exact .list h
      | _ => exact .single h nofun

/-- Texts for two lists of the same length: one for each position, with the name and the value
there. -/
structure Paired (names values texts : List String) : Prop where
  balanced : names.length = values.length
  length : texts.length = names.length
  reads : ∀ (i : Nat) name value, names[i]? = some name → values[i]? = some value →
    texts[i]? = some (name ++ "=" ++ value)

theorem paired_pairs {names values : List String} (h : names.length = values.length) :
    Paired names values (pairs names values) where
  balanced := h
  length := by rw [pairs, List.length_zipWith, ← h, min_self]
  reads := by
    intro i name value hname hvalue
    rw [pairs, List.getElem?_zipWith, hname, hvalue]

/-! ## Clauses -/

/-- The clause of conditions; empty without conditions. -/
def clauseOf (conditions : List String) : String :=
  if conditions = [] then "" else " where " ++ " and ".intercalate conditions

section

variable {sql : Sql}

theorem filter_of_balanced (h : sql.columnNames.length = sql.columnValues.length) :
    sql.filter = .ok (clauseOf (pairs sql.columnNames sql.columnValues)) := by
  have hconditions : sql.conditions = .ok (pairs sql.columnNames sql.columnValues) := if_pos h
  rw [Sql.filter, hconditions, clauseOf]
  change (if _ then _ else _) = _
  split <;> rename_i hempty
  · rw [if_pos (List.isEmpty_iff.mp hempty)]
  · rw [if_neg (mt List.isEmpty_iff.mpr hempty)]

theorem filter_of_unbalanced (h : sql.columnNames.length ≠ sql.columnValues.length) :
    sql.filter = .error (unequal "column_names" "column_values") := by
  have hconditions : sql.conditions = .error (unequal "column_names" "column_values") := if_neg h
  rw [Sql.filter, hconditions]
  rfl

theorem requiredFilter_of_nil (h : sql.columnNames = []) :
    sql.requiredFilter = .error (.missingParameter "column_names") := by
  rw [requiredFilter, h]
  rfl

theorem requiredFilter_of_ne_nil (h : sql.columnNames ≠ []) : sql.requiredFilter = sql.filter :=
  if_neg (mt List.isEmpty_iff.mp h)

theorem assignments_of_balanced (hne : sql.setNames ≠ [])
    (h : sql.setNames.length = sql.setValues.length) :
    sql.assignments = .ok (" , ".intercalate (pairs sql.setNames sql.setValues)) := by
  rw [assignments, if_pos h, if_neg (mt List.isEmpty_iff.mp hne)]

theorem assignments_of_unbalanced (h : sql.setNames.length ≠ sql.setValues.length) :
    sql.assignments = .error (unequal "set_column_names" "set_column_values") :=
  if_neg h

theorem assignments_of_nil (hnil : sql.setNames = [])
    (h : sql.setNames.length = sql.setValues.length) :
    sql.assignments = .error (.missingParameter "set_column_names") := by
  rw [assignments, if_pos h, hnil]
  rfl

end

/-! ## Statements -/

/-- What becomes of a statement that reads: it is refused when the names and the values differ in
number, and otherwise has one condition for each position, or no clause when there are none. -/
structure ReadOutcome (opening : String) (names values : List String)
    (outcome : Except Failure String) : Prop where
  refused : (∃ message, outcome = .error (.invalidParameter message)) ↔
    names.length ≠ values.length
  carries : names.length = values.length → ∃ conditions, Paired names values conditions ∧
    outcome = .ok (opening ++ clauseOf conditions ++ " order by 1 desc limit 1")

/-- What becomes of an insertion: it is refused when the names and the values differ in number, and
otherwise has all names and all values in order. -/
structure InsertOutcome (table : String) (names values : List String)
    (outcome : Except Failure String) : Prop where
  refused : (∃ message, outcome = .error (.invalidParameter message)) ↔
    names.length ≠ values.length
  carries : names.length = values.length →
    outcome = .ok ("insert into " ++ table ++ " (" ++ ",".intercalate names ++ ") values (" ++
      ",".intercalate values ++ ")")

/-- What becomes of an update: without an assignment or without a condition something is missing,
lists that differ in number are refused, and otherwise there is one assignment and one condition for
each position of their lists. -/
structure UpdateOutcome (table : String) (setNames setValues names values : List String)
    (outcome : Except Failure String) : Prop where
  refused : (∃ message, outcome = .error (.invalidParameter message)) ↔
    setNames.length ≠ setValues.length ∨
      setNames ≠ [] ∧ names ≠ [] ∧ names.length ≠ values.length
  missing : (∃ key, outcome = .error (.missingParameter key)) ↔
    setNames.length = setValues.length ∧ (setNames = [] ∨ names = [])
  carries : setNames ≠ [] → setNames.length = setValues.length → names ≠ [] →
    names.length = values.length → ∃ assignments conditions,
      Paired setNames setValues assignments ∧ Paired names values conditions ∧
      outcome = .ok ("update " ++ table ++ " set " ++ " , ".intercalate assignments ++
        clauseOf conditions)

/-- What becomes of a deletion, which needs a condition as an update does. -/
structure DeleteOutcome (table : String) (names values : List String)
    (outcome : Except Failure String) : Prop where
  refused : (∃ message, outcome = .error (.invalidParameter message)) ↔
    names ≠ [] ∧ names.length ≠ values.length
  missing : (∃ key, outcome = .error (.missingParameter key)) ↔ names = []
  carries : names ≠ [] → names.length = values.length → ∃ conditions,
    Paired names values conditions ∧ outcome = .ok ("delete from " ++ table ++ clauseOf conditions)

section

variable (sql : Sql) (table : String)

theorem readOutcome (opening : String) :
    ReadOutcome opening sql.columnNames sql.columnValues (do
      let clause ← sql.filter
      .ok (opening ++ clause ++ " order by 1 desc limit 1")) := by
  by_cases h : sql.columnNames.length = sql.columnValues.length
  · rw [filter_of_balanced h]
    exact ⟨iff_of_false nofun (not_not_intro h), fun _ => ⟨_, paired_pairs h, rfl⟩⟩
  · rw [filter_of_unbalanced h]
    exact ⟨iff_of_true ⟨_, rfl⟩ h, fun heq => absurd heq h⟩

theorem insertOutcome :
    InsertOutcome table sql.columnNames sql.columnValues (sql.statementOn table "insert") := by
  by_cases h : sql.columnNames.length = sql.columnValues.length
  · rw [statementOn, if_pos h]
    exact ⟨iff_of_false nofun (not_not_intro h), fun _ => rfl⟩
  · rw [statementOn, if_neg h]
    exact ⟨iff_of_true ⟨_, rfl⟩ h, fun heq => absurd heq h⟩

theorem deleteOutcome :
    DeleteOutcome table sql.columnNames sql.columnValues (sql.statementOn table "deletedb") := by
  rw [statementOn]
  by_cases hnil : sql.columnNames = []
  · rw [requiredFilter_of_nil hnil]
    exact ⟨iff_of_false nofun fun h => h.1 hnil, iff_of_true ⟨_, rfl⟩ hnil,
      fun hne => absurd hnil hne⟩
  rw [requiredFilter_of_ne_nil hnil]
  by_cases h : sql.columnNames.length = sql.columnValues.length
  · rw [filter_of_balanced h]
    exact ⟨iff_of_false nofun fun hne => hne.2 h, iff_of_false nofun hnil,
      fun _ _ => ⟨_, paired_pairs h, rfl⟩⟩
  · rw [filter_of_unbalanced h]
    exact ⟨iff_of_true ⟨_, rfl⟩ ⟨hnil, h⟩, iff_of_false nofun hnil, fun _ heq => absurd heq h⟩

theorem updateOutcome :
    UpdateOutcome table sql.setNames sql.setValues sql.columnNames sql.columnValues
      (sql.statementOn table "update") := by
  rw [statementOn]
  by_cases hset : sql.setNames.length = sql.setValues.length
  case neg =>
    rw [assignments_of_unbalanced hset]
    exact ⟨iff_of_true ⟨_, rfl⟩ (.inl hset), iff_of_false nofun fun h => hset h.1,
      fun _ heq => absurd heq hset⟩
  by_cases hnone : sql.setNames = []
  · rw [assignments_of_nil hnone hset]
    refine ⟨iff_of_false nofun ?_, iff_of_true ⟨_, rfl⟩ ⟨hset, .inl hnone⟩,
      fun hne => absurd hnone hne⟩
    exact fun h => h.elim (absurd hset) fun hne => hne.1 hnone
  rw [assignments_of_balanced hnone hset]
  by_cases hnil : sql.columnNames = []
  · rw [requiredFilter_of_nil hnil]
    refine ⟨iff_of_false nofun ?_, iff_of_true ⟨_, rfl⟩ ⟨hset, .inr hnil⟩,
      fun _ _ hne => absurd hnil hne⟩
    exact fun h => h.elim (absurd hset) fun hne => hne.2.1 hnil
  rw [requiredFilter_of_ne_nil hnil]
  have hthere : ¬ (sql.setNames.length = sql.setValues.length ∧
      (sql.setNames = [] ∨ sql.columnNames = [])) := fun h => h.2.elim hnone hnil
  by_cases h : sql.columnNames.length = sql.columnValues.length
  · rw [filter_of_balanced h]
    refine ⟨iff_of_false nofun ?_, iff_of_false nofun hthere,
      fun _ _ _ _ => ⟨_, _, paired_pairs hset, paired_pairs h, rfl⟩⟩
    exact fun hunequal => hunequal.elim (absurd hset) fun hne => hne.2.2 h
  · rw [filter_of_unbalanced h]
    exact ⟨iff_of_true ⟨_, rfl⟩ (.inr ⟨hnone, hnil, h⟩), iff_of_false nofun hthere,
      fun _ _ _ heq => absurd heq h⟩

end

/-- The statements of a step with a table, by its lists: what each action refuses, and otherwise the
text of the statement, in which every position of a list has its text. -/
theorem statements_paired {step : Step} {name : String} {names values setNames setValues : List String}
    (htable : step.text? "table_name" = some name) (hname : Text.trim name.toList ≠ [])
    (hnames : Lists step "column_names" names) (hvalues : Lists step "column_values" values)
    (hsetNames : Lists step "set_column_names" setNames)
    (hsetValues : Lists step "set_column_values" setValues) :
    let sql := ofStep step
    let table := Text.lowered name
    ReadOutcome ("select " ++ sql.columns ++ " from " ++ table) names values
        (sql.statement "select") ∧
      ReadOutcome ("select count(*) as count from " ++ table) names values
        (sql.statement "count") ∧
      InsertOutcome table names values (sql.statement "insert") ∧
      UpdateOutcome table setNames setValues names values (sql.statement "update") ∧
      DeleteOutcome table names values (sql.statement "deletedb") := by
  rw [lists_iff] at hnames hvalues hsetNames hsetValues
  subst hnames hvalues hsetNames hsetValues
  have hstatement : ∀ action, (ofStep step).statement action =
      (ofStep step).statementOn (Text.lowered name) action := by
    intro action
    have hfound : (ofStep step).table = some (Text.lowered name) := by
      simp [ofStep, notBlank, htable, hname]
    rw [statement, hfound]
  simp only [hstatement]
  exact ⟨readOutcome (ofStep step) _, readOutcome (ofStep step) _,
    insertOutcome (ofStep step) _, updateOutcome (ofStep step) _, deleteOutcome (ofStep step) _⟩

/-- A step that renames a user. -/
def renameUser : Step where
  action := "update"
  payload := [("table_name", .text "Users"), ("set_column_names", .list [.text "name", .text "seen"]),
    ("set_column_values", .list [.text "'bob'", .null]), ("column_names", .text "id"),
    ("column_values", .ofInt 5)]

theorem statements_paired_renameUser :
    (renameUser.text? "table_name" = some "Users" ∧ Text.trim "Users".toList ≠ []) ∧
      Lists renameUser "column_names" ["id"] ∧ Lists renameUser "column_values" ["5"] ∧
      Lists renameUser "set_column_names" ["name", "seen"] ∧
      Lists renameUser "set_column_values" ["'bob'", "null"] ∧
      ∃ assignments conditions, Paired ["name", "seen"] ["'bob'", "null"] assignments ∧
        Paired ["id"] ["5"] conditions ∧
        (ofStep renameUser).statement "update" =
          .ok ("update " ++ Text.lowered "Users" ++ " set " ++ " , ".intercalate assignments ++
            clauseOf conditions) := by
  have htable : renameUser.text? "table_name" = some "Users" := rfl
  have hname : Text.trim "Users".toList ≠ [] := by decide
  have hnames : Lists renameUser "column_names" ["id"] := lists_iff.mpr rfl
  have hvalues : Lists renameUser "column_values" ["5"] := lists_iff.mpr rfl
  have hsetNames : Lists renameUser "set_column_names" ["name", "seen"] := lists_iff.mpr rfl
  have hsetValues : Lists renameUser "set_column_values" ["'bob'", "null"] := lists_iff.mpr rfl
  obtain ⟨-, -, -, hupdate, -⟩ :=
    statements_paired htable hname hnames hvalues hsetNames hsetValues
  exact ⟨⟨htable, hname⟩, hnames, hvalues, hsetNames, hsetValues,
    hupdate.carries nofun rfl nofun rfl⟩

/-- A step that would rename all users. -/
def renameUsers : Step where
  action := "update"
  payload := [("table_name", .text "users"), ("set_column_names", .list [.text "name"]),
    ("set_column_values", .list [.text "'bob'"])]

/-- An update with an assignment and no condition is not made, where a statement that reads is made
without a clause. -/
theorem unfiltered_update_refused :
    Lists renameUsers "column_names" [] ∧ Lists renameUsers "column_values" [] ∧
      Lists renameUsers "set_column_names" ["name"] ∧
      Lists renameUsers "set_column_values" ["'bob'"] ∧
      (ofStep renameUsers).statement "update" = .error (.missingParameter "column_names") ∧
      (ofStep renameUsers).statement "select" =
        .ok "select * from users order by 1 desc limit 1" := by
  exact ⟨.absent rfl, .absent rfl, lists_iff.mpr rfl, lists_iff.mpr rfl, rfl, rfl⟩

end Sql

end FlowRunner
