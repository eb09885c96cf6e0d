import FlowRunner.Proofs.StaticRouting

/-!
# Actions and the families that own them

The table of actions says what every family carries out. A family refuses an action exactly when the
table does not list it for this family, and then it asks for nothing (`Family.run_of_not_owned`). A
database looks for its table first; without one it refuses every action in the same way
(`Sql.run_of_no_table`).

Every action has one owner. So naming the family of a step never changes where the step goes
(`Route.find_of_named`), and a step that has a route is not refused over its action later on.
`Family.actions_spec` puts this together.
-/

namespace FlowRunner

/-! ## Owners -/

namespace Family

theorem mem_owned_iff {family : Family} {action : String} :
    action ∈ family.owned ↔ (action, family) ∈ actions := by
  simp [owned]

/-- No action is listed twice, so that the owner which is looked up is the only one. -/
theorem ofAction?_of_mem_owned {family : Family} {action : String} (h : action ∈ family.owned) :
    ofAction? action = some family := by
  have hdistinct : (actions.map Prod.fst).Nodup := by decide
  obtain ⟨before, after, hactions⟩ := List.append_of_mem (mem_owned_iff.mp h)
  rw [hactions, List.map_append, List.map_cons, List.nodup_append] at hdistinct
  rw [ofAction?, List.lookup_eq_some_iff]
  refine ⟨before, after, hactions, fun entry hentry => ?_⟩
  have hne := hdistinct.2.2 entry.1 (List.mem_map_of_mem hentry) action List.mem_cons_self
  exact bne_iff_ne.mpr hne.symm

end Family

/-- A step that names its family goes where it would go without naming it, if it goes anywhere. -/
theorem Route.find_of_named {action family : String} {route : Route}
    (h : find action (some family) = .ok route) : find action none = .ok route := by
  have howned := mem_owned_of_find h
  have hlookup := Family.ofAction?_of_mem_owned howned
  -- What passes the check of the owner is its route, however the owner was found.
  have hroute : ∀ owner verb,
      (if owner.owned.contains verb then .ok ⟨owner, verb⟩
        else .error (RoutingError.unsupported owner verb)) = Except.ok route →
      owner = route.family ∧ verb = route.action := by
    intro owner verb hchecked
    split at hchecked
    · cases hchecked
      exact ⟨rfl, rfl⟩
    · cases hchecked
  unfold find at h ⊢
  dsimp only [Option.map_some, Option.map_none, Option.filter_none] at h ⊢
  split at h
  · split at h
    · obtain ⟨hfamily, haction⟩ := hroute _ _ h
      rw [haction, hlookup]
      dsimp only
      exact if_pos (List.contains_iff_mem.mpr howned)
    · cases h
  · exact h

/-! ## Refused actions -/

/-- Without a table, a database carries out nothing. -/
theorem Sql.run_of_no_table {step : Step} (h : (ofStep step).table = none)
    (config : Config.Database) (action : String) :
    run config step action = Program.fail (.missingParameter "table_name") := by
  have hstatement : (ofStep step).statement action = .error (.missingParameter "table_name") := by
    rw [statement, h]
  unfold run
  dsimp only
  rw [hstatement]
  rfl

/-- A family refuses an action that it does not own, before anything is asked for. -/
theorem Family.run_of_not_owned {family : Family} {action : String} (h : action ∉ family.owned)
    (config : Config) {step : Step} (htable : family = .database → (Sql.ofStep step).table ≠ none) :
    family.run config step action =
      Program.fail (.routing (.unsupported family action)) := by
  -- In each family the actions that it distinguishes are owned, and only the last branch is left.
  cases family with
  | api =>
    change Api.run step action = _
    unfold Api.run
    split
    all_goals first
      | exact absurd (by decide) h
      | rfl
  | database =>
    obtain ⟨table, htable⟩ := Option.ne_none_iff_exists'.mp (htable rfl)
    have hstatement : (Sql.ofStep step).statement action =
        .error (.routing (.unsupported .database action)) := by
      unfold Sql.statement
      rw [htable]
      dsimp only
      unfold Sql.statementOn
      split
      all_goals first
        | exact absurd (by decide) h
        | rfl
    change Sql.run config.database step action = _
    unfold Sql.run
    dsimp only
    rw [hstatement]
    rfl
  | file =>
    change TextFile.run step action = _
    unfold TextFile.run
    split
    all_goals first
      | exact absurd (by decide) h
      | rfl
  | cloud =>
    change Cloud.run config step action = _
    unfold Cloud.run
    split
    all_goals first
      | exact absurd (by decide) h
      | rfl
  | messaging =>
    change Event.run config.kafka step action = _
    unfold Event.run
    split
    all_goals first
      | exact absurd (by decide) h
      | rfl

/-! ## Steps that have a route -/

namespace Step

variable {σ : Type}

theorem settle_ne_failed (answer : Backends σ) (store : Store) (step : Step) (result : Value)
    (s : σ) (failure : Failure) :
    ((settle store step result).run answer s).1 ≠ .ended (.failed failure) := by
  unfold settle
  split
  · simp
  · split
    · simp [Attempt.run_pause]
    · simp

/-- A step that has a route fails, if it does, by an attempt and with its label. -/
theorem exists_attempt_of_perform {answer : Backends σ} {config : Config} {index : Nat}
    {store : Store} {s : σ} {step : Step} {route : Route} {failure : Failure}
    (hroute : Route.ofStep step = .ok route)
    (h : ((perform config index store step).run answer s).1 = .ended (.failed failure)) :
    ∃ wait cause t, (Attempt.run config route step wait).run answer s = (.error cause, t) ∧
      failure = .step (step.label index) cause := by
  unfold perform at h
  simp only [hroute] at h
  cases hwait : step.retryWait? with
  | none =>
    rw [hwait] at h
    cases h
  | some wait =>
    simp only [hwait, Script.run_bind] at h
    rcases hrun : (Attempt.run config route step wait).run answer s with ⟨cause | result, t⟩
    · simp only [hrun, Script.run_done] at h
      cases h
      exact ⟨wait, cause, t, hrun, rfl⟩
    · simp only [hrun] at h
      exact absurd h (settle_ne_failed answer store step result t failure)

end Step

/-- The table of actions and the families agree. A family refuses an action as not its own exactly
when the table does not list the action for it, and has asked for nothing then; only a database
without a table refuses every action because of that. A step that has a route never fails over
routing once it is carried out, and where an action goes does not depend on whether its family is
named. -/
theorem Family.actions_spec :
    (∀ (family : Family) (action : String) (config : Config) (step : Step) (σ : Type)
        (answer : Backends σ) (s : σ),
      let call := Attempt.invocation config ⟨family, action⟩ step
      ((family = .database → (Sql.ofStep step).table ≠ none) →
        ((∃ e, (call.run answer s).1 = .error (.routing e)) ↔ (action, family) ∉ actions) ∧
        ((action, family) ∉ actions →
          call.run answer s = (.error (.routing (.unsupported family action)), s) ∧
            call.history answer s = [])) ∧
      (family = .database → (Sql.ofStep step).table = none →
        call.run answer s = (.error (.missingParameter "table_name"), s) ∧
          call.history answer s = [])) ∧
    (∀ (step : Step) (route : Route), Route.ofStep step = .ok route →
      ∀ (σ : Type) (answer : Backends σ) (config : Config) (index : Nat) (store : Store) (s : σ)
        (failure : Failure),
        ((step.perform config index store).run answer s).1 = .ended (.failed failure) →
          ∀ e, failure.root ≠ .routing e) ∧
    ∀ (action family : String) (route : Route),
      Route.find action (some family) = .ok route → Route.find action none = .ok route := by
  refine ⟨?_, ?_, fun action family route => Route.find_of_named⟩
  · intro family action config step σ answer s call
    refine ⟨fun htable => ?_, ?_⟩
    · have hrefused : (action, family) ∉ actions →
          call = .done (.error (.routing (.unsupported family action))) := by
        intro hunlisted
        exact run_of_not_owned (mt mem_owned_iff.mp hunlisted) config htable
      refine ⟨⟨?_, ?_⟩, ?_⟩
      · rintro ⟨e, he⟩
        have hfailure := family.run_failsOnly config step action σ answer s _ he
        exact mt mem_owned_iff.mpr hfailure.2
      · intro hunlisted
        rw [hrefused hunlisted]
        exact ⟨_, rfl⟩
      · intro hunlisted
        rw [hrefused hunlisted]
        exact ⟨rfl, rfl⟩
    · rintro rfl hnone
      have hrefused : call = .done (.error (.missingParameter "table_name")) :=
        Sql.run_of_no_table hnone config.database action
      rw [hrefused]
      exact ⟨rfl, rfl⟩
  · intro step route hroute σ answer config index store s failure hfailed e
    obtain ⟨wait, cause, t, hrun, rfl⟩ := Step.exists_attempt_of_perform hroute hfailed
    rcases Attempt.failure_of_run hrun with hoperation | ⟨m, rfl⟩
    · exact hoperation.root_ne_routing (Route.mem_owned_of_find hroute) e
    · simp [Failure.root]

/-- A step that asks a database for an action of interfaces. -/
def purge : Step where
  action := "delete"
  family := some "db"
  payload := [("table_name", .text "orders")]

/-- A step that reads a file. -/
def readNotes : Step where
  action := " READ"
  payload := [("filename", .text "notes")]

theorem Family.actions_spec_purge :
    (Sql.ofStep purge).table ≠ none ∧ ("delete", .database) ∉ actions ∧
      (Attempt.invocation {} ⟨.database, "delete"⟩ purge).run Stage.answer Stage.empty =
        (.error (.routing (.unsupported .database "delete")), Stage.empty) ∧
      (Sql.ofStep readNotes).table = none ∧
      (Attempt.invocation {} ⟨.database, "delete"⟩ readNotes).history Stage.answer Stage.empty =
        [] ∧
      Route.ofStep readNotes = .ok ⟨.file, "read"⟩ ∧
      (∃ failure, ((readNotes.perform {} 0 Store.empty).run Stage.answer Stage.empty).1 =
        .ended (.failed failure) ∧ ∀ e, failure.root ≠ .routing e) ∧
      Route.find "S3Upload" (some "AWS") = .ok ⟨.cloud, "s3upload"⟩ ∧
      Route.find "S3Upload" none = .ok ⟨.cloud, "s3upload"⟩ := by
  obtain ⟨hcalls, hroutes, hnamed⟩ := actions_spec
  have htable : (Sql.ofStep purge).table ≠ none := by decide +kernel
  have hunlisted : ("delete", .database) ∉ actions := by decide
  have hnone : (Sql.ofStep readNotes).table = none := by decide +kernel
  have hroute : Route.ofStep readNotes = .ok ⟨.file, "read"⟩ := by rfl
  have hfails : ((readNotes.perform {} 0 Store.empty).run Stage.answer Stage.empty).1 =
      .ended (.failed (.step "step 1" (.file "notes" "No such file or directory (os error 2)"))) := by
    rfl
  have hfind : Route.find "S3Upload" (some "AWS") = .ok ⟨.cloud, "s3upload"⟩ := by rfl
  have hpurge := hcalls .database "delete" {} purge Stage Stage.answer Stage.empty
  have hread := hcalls .database "delete" {} readNotes Stage Stage.answer Stage.empty
  exact ⟨htable, hunlisted, ((hpurge.1 fun _ => htable).2 hunlisted).1, hnone,
    (hread.2 rfl hnone).2, hroute,
    ⟨_, hfails, hroutes readNotes _ hroute Stage Stage.answer {} 0 Store.empty Stage.empty _ hfails⟩,
    hfind, hnamed _ _ _ hfind⟩

end FlowRunner
