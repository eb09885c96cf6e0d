import FlowRunner.Proofs.LoadedDirectories
import FlowRunner.Proofs.OverlongDelays
import FlowRunner.Proofs.ParameterLayers

/-!
# Flows in turn

The flows of a directory are run one after another by the same backends, each over its own
parameters and nothing that another flow has kept (`Command.ownRun`). What was started, in which
state and with which end, are the turns of the run (`Command.InTurn`); behind a failure the other
flows are left when it is asked for, and the report counts them. `Command.Accounted` says all this.

* `Command.exists_course`, `Command.Course.run_eq`: every run over flows has its turns.
* `Workflow.exists_overlong_of_aborted`: only a delay that is too long aborts a flow.
* `Command.Readied.run_eq`: a run over a directory is one over the flows that it loads.
* `Command.flows_accounted_iff`: flows are accounted for exactly when none that is reached aborts.
* `Command.overlong_delay_unaccounted`: an aborted flow takes the others and the report with it.
-/

namespace FlowRunner

variable {σ : Type}

/-! ## How flows end -/

namespace Outcome

/-- Whether a run ended well. -/
def passes : Outcome → Bool
  | completed _ => true
  | returned _ => true
  | failed _ => false
  | aborted => false

/-- Whether a run failed. -/
def fails (outcome : Outcome) : Bool :=
  outcome.failure?.isSome

/-- Whether a run was aborted. -/
def aborts : Outcome → Bool
  | aborted => true
  | _ => false

/-- Whether the flows behind one that ends so are left. -/
def halts (failFast : Bool) (outcome : Outcome) : Bool :=
  outcome.aborts || (failFast && outcome.fails)

theorem aborts_iff {outcome : Outcome} : outcome.aborts = true ↔ outcome = .aborted := by
  cases outcome <;> simp [aborts]

theorem passes_of_halts {outcome : Outcome} (h : outcome.halts true = false) :
    outcome.passes = true := by
  cases outcome with
  | completed final => rfl
  | returned result => rfl
  | failed failure => cases h
  | aborted => cases h

theorem toNat_passes_add_fails_add_aborts (outcome : Outcome) :
    outcome.passes.toNat + outcome.fails.toNat + outcome.aborts.toNat = 1 := by
  cases outcome <;> rfl

end Outcome

/-! ## Why flows are aborted -/

/-- Backends that know declared secrets by themselves. -/
def Backends.holding (answer : Backends σ) (secrets : Secrets) : Backends σ
  | .fetchSecret name _, s => (secrets.fetch name, s)
  | effect, s => answer effect s

theorem Script.run_withSecrets {α : Type} (answer : Backends σ) (secrets : Secrets) (p : Script α)
    (s : σ) : (p.withSecrets secrets).run answer s = p.run (answer.holding secrets) s := by
  induction p generalizing s with
  | done value => rfl
  | ask effect next ih => cases effect <;> exact ih _ _

/-- A flow is aborted only at a step that asks for a wait which no duration can hold. -/
theorem Workflow.exists_overlong_of_aborted {answer : Backends σ} {config : Config} {w : Workflow}
    {overrides : Option Store} {s : σ}
    (h : ((w.run config overrides).run answer s).1 = .aborted) :
    ∃ raw ∈ w.steps, ∃ store step, Step.ofRawWith store raw = .ok step ∧
      (step.retryWait? = none ∨ step.postDelay? = none) := by
  rcases run_cases answer config w overrides s with
    ⟨e, -, hrun, -⟩ | ⟨initial, visits, final, t, log, -, -, hrun, -⟩ |
      ⟨initial, outcome, t, log, -, hends, hrun, -⟩
  · rw [hrun] at h
    cases h
  · rw [hrun] at h
    cases h
  · rw [hrun] at h
    cases h
    generalize hsteps : w.steps = steps at hends
    obtain ⟨-, hstep⟩ := hends
    refine ⟨_, List.mem_append_right _ List.mem_cons_self, ?_⟩
    cases hstep with
    | overlongWait _ hresolves _ hwait => exact ⟨_, _, hresolves, .inl hwait⟩
    | overlongDelay hstep _ _ hdelay => exact ⟨_, _, hstep.resolves, .inr hdelay⟩

namespace Command

/-! ## Turns -/

/-- A flow that was started, and how it ended. -/
structure Turn where
  path : String
  workflow : Workflow
  outcome : Outcome

namespace Turn

/-- The flow with its path. -/
def flow (turn : Turn) : String × Workflow :=
  (turn.path, turn.workflow)

/-- What is said about a flow when it has ended. -/
def line (turn : Turn) : String :=
  match turn.outcome with
  | .failed failure => "  ✗ " ++ turn.workflow.displayName ++ " (" ++ turn.path ++
      ")\n      Error: " ++ failure.message ++ "\n"
  | .aborted => ""
  | _ => "  ✓ " ++ turn.workflow.displayName ++ "\n"

end Turn

/-- The number of flows that ended in some way. -/
def countOf (ends : Outcome → Bool) (turns : List Turn) : ℕ :=
  turns.countP fun turn => ends turn.outcome

@[simp] theorem countOf_nil (ends : Outcome → Bool) : countOf ends [] = 0 := rfl

theorem countOf_cons (ends : Outcome → Bool) (turn : Turn) (rest : List Turn) :
    countOf ends (turn :: rest) = (ends turn.outcome).toNat + countOf ends rest := by
  rw [countOf, List.countP_cons, Nat.add_comm]
  cases ends turn.outcome <;> rfl

/-- No flow that was started has failed. -/
def Clean (turns : List Turn) : Prop :=
  ∀ turn ∈ turns, turn.outcome.fails = false

instance (turns : List Turn) : Decidable (Clean turns) :=
  inferInstanceAs (Decidable (∀ turn ∈ turns, turn.outcome.fails = false))

/-- Runs a flow over its own parameters and the secrets of a configuration. -/
def ownRun (config : Config) (w : Workflow) : Script Outcome :=
  (w.runFrom config w.params).withSecrets config.database.secrets

theorem runFlow_eq_ownRun (config : Config) (w : Workflow) :
    runFlow config w none = ownRun config w := rfl

/-- Flows are run one after another, each by itself from the state that the one before leaves: with
the state behind the last one, and the exchanges of all. -/
inductive InTurn (answer : Backends σ) (config : Config) :
    σ → List Turn → σ → List Exchange → Prop
  | nil {s : σ} : InTurn answer config s [] s []
  | cons {s t u : σ} {turn : Turn} {rest : List Turn} {log : List Exchange}
    (hrun : (ownRun config turn.workflow).run answer s = (turn.outcome, t))
    (hrest : InTurn answer config t rest u log) :
    InTurn answer config s (turn :: rest) u
      ((ownRun config turn.workflow).history answer s ++ log)

/-- A run over flows up to the one behind which the others are left, if there is one. -/
inductive Course (answer : Backends σ) (config : Config) (failFast : Bool) :
    σ → List (String × Workflow) → List Turn → List (String × Workflow) → σ → List Exchange → Prop
  | done {s : σ} : Course answer config failFast s [] [] [] s []
  | halt {s t : σ} {path : String} {w : Workflow} {rest : List (String × Workflow)}
    {outcome : Outcome} (hrun : (ownRun config w).run answer s = (outcome, t))
    (hhalts : outcome.halts failFast = true) :
    Course answer config failFast s ((path, w) :: rest) [⟨path, w, outcome⟩] rest t
      ((ownRun config w).history answer s)
  | next {s t u : σ} {path : String} {w : Workflow} {rest skipped : List (String × Workflow)}
    {outcome : Outcome} {turns : List Turn} {log : List Exchange}
    (hrun : (ownRun config w).run answer s = (outcome, t))
    (hgoes : outcome.halts failFast = false)
    (hrest : Course answer config failFast t rest turns skipped u log) :
    Course answer config failFast s ((path, w) :: rest) (⟨path, w, outcome⟩ :: turns) skipped u
      ((ownRun config w).history answer s ++ log)

theorem exists_course (answer : Backends σ) (config : Config) (failFast : Bool) (s : σ)
    (flows : List (String × Workflow)) :
    ∃ turns skipped t log, Course answer config failFast s flows turns skipped t log := by
  induction flows generalizing s with
  | nil => exact ⟨[], [], s, [], .done⟩
  | cons flow rest ih =>
    rcases hrun : (ownRun config flow.2).run answer s with ⟨outcome, t⟩
    cases hhalts : outcome.halts failFast with
    | true => exact ⟨_, _, _, _, .halt hrun hhalts⟩
    | false =>
      obtain ⟨turns, skipped, u, log, hrest⟩ := ih t
      exact ⟨_, _, _, _, .next hrun hhalts hrest⟩

/-! ## Tallies of turns -/

/-- The tally after turns. -/
def Tally.after (tally : Tally) (turns : List Turn) : Tally :=
  turns.foldl (fun soFar turn => soFar.add turn.path turn.workflow turn.outcome) tally

theorem Tally.add_eq (tally : Tally) (turn : Turn) :
    tally.add turn.path turn.workflow turn.outcome =
      ⟨tally.passed + turn.outcome.passes.toNat, tally.failed + turn.outcome.fails.toNat,
        tally.aborted || turn.outcome.aborts, tally.output ++ turn.line⟩ := by
  obtain ⟨path, w, outcome⟩ := turn
  cases outcome <;>
    simp [Tally.add, resultOf, Outcome.passes, Outcome.fails, Outcome.failure?, Outcome.aborts,
      Turn.line, String.append_assoc]

theorem Tally.after_eq (tally : Tally) (turns : List Turn) :
    tally.after turns =
      ⟨tally.passed + countOf Outcome.passes turns, tally.failed + countOf Outcome.fails turns,
        tally.aborted || turns.any fun turn => turn.outcome.aborts,
        tally.output ++ String.join (turns.map Turn.line)⟩ := by
  induction turns generalizing tally with
  | nil => simp [Tally.after]
  | cons turn rest ih =>
    rw [Tally.after, List.foldl_cons, ← Tally.after, ih, Tally.add_eq]
    simp only [countOf_cons, List.any_cons, List.map_cons, String.join_cons, Bool.or_assoc,
      Nat.add_assoc, String.append_assoc]

theorem Tally.stops_add {tally : Tally} {failFast : Bool} (h : tally.stops failFast = false)
    (turn : Turn) :
    (tally.add turn.path turn.workflow turn.outcome).stops failFast =
      turn.outcome.halts failFast := by
  rw [Tally.add_eq]
  cases failFast <;> cases hfails : turn.outcome.fails <;>
    simp_all [Tally.stops, Outcome.halts]

namespace Course

variable {answer : Backends σ} {config : Config} {failFast : Bool} {s t : σ}
  {flows skipped : List (String × Workflow)} {turns : List Turn} {log : List Exchange}

/-- What a run over flows does is what its turns say. -/
theorem run_eq (h : Course answer config failFast s flows turns skipped t log) {tally : Tally}
    (htally : tally.stops failFast = false) :
    (runFlows config failFast tally flows).run answer s = (tally.after turns, t) ∧
      (runFlows config failFast tally flows).history answer s = log := by
  induction h generalizing tally with
  | done => exact ⟨rfl, rfl⟩
  | @halt s t path w rest outcome hrun hhalts =>
    have hstops := (Tally.stops_add htally ⟨path, w, outcome⟩).trans hhalts
    dsimp only at hstops
    simp only [runFlows, runFlow_eq_ownRun, Script.run_bind, Script.history_bind, hrun, hstops,
      if_true]
    exact ⟨rfl, List.append_nil _⟩
  | @next s t u path w rest skipped outcome turns log hrun hgoes hrest ih =>
    have hstops := (Tally.stops_add htally ⟨path, w, outcome⟩).trans hgoes
    obtain ⟨hrun', hhistory⟩ := ih hstops
    dsimp only at hstops
    simp only [runFlows, runFlow_eq_ownRun, Script.run_bind, Script.history_bind, hrun, hstops,
      Bool.false_eq_true, if_false]
    exact ⟨hrun', by rw [hhistory]⟩

theorem split (h : Course answer config failFast s flows turns skipped t log) :
    flows = turns.map Turn.flow ++ skipped := by
  induction h with
  | done => rfl
  | halt => rfl
  | next _ _ _ ih => rw [ih]; rfl

theorem inTurn (h : Course answer config failFast s flows turns skipped t log) :
    InTurn answer config s turns t log := by
  induction h with
  | done => exact .nil
  | @halt s t path w rest outcome hrun =>
    rw [← List.append_nil ((ownRun config w).history answer s)]
    exact .cons hrun .nil
  | next hrun _ _ ih => exact .cons hrun ih

theorem halts_last (h : Course answer config failFast s flows turns skipped t log)
    (hskipped : skipped ≠ []) :
    ∃ last ∈ turns.getLast?, last.outcome.halts failFast = true := by
  induction h with
  | done => exact absurd rfl hskipped
  | halt _ hhalts => exact ⟨_, rfl, hhalts⟩
  | next _ _ _ ih =>
    obtain ⟨last, hlast, hhalts⟩ := ih hskipped
    refine ⟨last, ?_, hhalts⟩
    rw [List.getLast?_cons, Option.mem_def.mp hlast]
    rfl

theorem goes_on (h : Course answer config failFast s flows turns skipped t log) :
    ∀ turn ∈ turns.dropLast, turn.outcome.halts failFast = false := by
  induction h with
  | done => exact List.forall_mem_nil _
  | halt => exact List.forall_mem_nil _
  | @next s t u path w rest skipped outcome turns log hrun hgoes hrest ih =>
    intro turn hturn
    cases turns with
    | nil => cases hturn
    | cons second more =>
      rw [List.dropLast_cons_of_ne_nil (List.cons_ne_nil _ _)] at hturn
      rcases List.mem_cons.mp hturn with rfl | hturn
      · exact hgoes
      · exact ih turn hturn

end Course

/-! ## Flows that are reached -/

/-- A flow is started in a state, since no flow before it ends in a way that leaves it. -/
inductive Reached (answer : Backends σ) (config : Config) (failFast : Bool) :
    σ → List (String × Workflow) → Workflow → σ → Prop
  | here {s : σ} {path : String} {w : Workflow} {rest : List (String × Workflow)} :
    Reached answer config failFast s ((path, w) :: rest) w s
  | later {s t u : σ} {path : String} {w v : Workflow} {rest : List (String × Workflow)}
    {outcome : Outcome} (hrun : (ownRun config w).run answer s = (outcome, t))
    (hgoes : outcome.halts failFast = false)
    (h : Reached answer config failFast t rest v u) :
    Reached answer config failFast s ((path, w) :: rest) v u

/-- A flow that is reached aborts. -/
def Aborts (answer : Backends σ) (config : Config) (failFast : Bool) (s : σ)
    (flows : List (String × Workflow)) : Prop :=
  ∃ w t, Reached answer config failFast s flows w t ∧
    ((ownRun config w).run answer t).1 = .aborted

theorem not_aborts_nil {answer : Backends σ} {config : Config} {failFast : Bool} {s : σ} :
    ¬ Aborts answer config failFast s [] := by
  rintro ⟨w, t, hreached, -⟩
  cases hreached

theorem aborts_cons_iff {answer : Backends σ} {config : Config} {failFast : Bool} {s t : σ}
    {path : String} {w : Workflow} {rest : List (String × Workflow)} {outcome : Outcome}
    (hrun : (ownRun config w).run answer s = (outcome, t)) :
    Aborts answer config failFast s ((path, w) :: rest) ↔
      outcome = .aborted ∨
        outcome.halts failFast = false ∧ Aborts answer config failFast t rest := by
  constructor
  · rintro ⟨v, u, hreached, haborted⟩
    cases hreached with
    | here =>
      rw [hrun] at haborted
      exact .inl haborted
    | later hrun' hgoes hlater =>
      cases hrun.symm.trans hrun'
      exact .inr ⟨hgoes, v, u, hlater, haborted⟩
  · rintro (haborted | ⟨hgoes, v, u, hlater, haborted⟩)
    · exact ⟨w, s, .here, by rw [hrun, haborted]⟩
    · exact ⟨v, u, .later hrun hgoes hlater, haborted⟩

theorem Course.any_aborts_iff {answer : Backends σ} {config : Config} {failFast : Bool} {s t : σ}
    {flows skipped : List (String × Workflow)} {turns : List Turn} {log : List Exchange}
    (h : Course answer config failFast s flows turns skipped t log) :
    (turns.any fun turn => turn.outcome.aborts) = true ↔ Aborts answer config failFast s flows := by
  induction h with
  | done => simp [not_aborts_nil]
  | @halt s t path w rest outcome hrun hhalts =>
    rw [aborts_cons_iff hrun]
    simp [hhalts, Outcome.aborts_iff]
  | next hrun hgoes hrest ih =>
    rw [aborts_cons_iff hrun, ← ih]
    simp [hgoes, Outcome.aborts_iff]

/-! ## Accounts -/

/-- What is said at the end about so many flows. -/
def summary (verdict : String) (passed failed skipped : ℕ) : String :=
  "\n=== Results ===\n\nOverall: " ++ verdict ++ "\nPassed: " ++ toString passed ++ ", Failed: " ++
    toString failed ++ ", Skipped: " ++ toString skipped ++ "\n"

/-- Runs flows and reports on them, after what has been said before. -/
def flowsReport (before : String) (config : Config) (failFast : Bool)
    (flows : List (String × Workflow)) : Script Report :=
  (runFlows config failFast .start flows).bind fun tally =>
    .done (tallyReport before flows.length tally)

/-- A run over flows, with its turns and the flows that were not started, leaves a report and a
state after some exchanges. -/
structure Accounted (answer : Backends σ) (config : Config) (failFast : Bool) (before : String)
    (s : σ) (flows : List (String × Workflow)) (turns : List Turn)
    (skipped : List (String × Workflow)) (result : Report × σ) (log : List Exchange) : Prop where
  /-- The flows in order are those that were started, and then those that were not. -/
  split : flows = turns.map Turn.flow ++ skipped
  inTurn : InTurn answer config s turns result.2 log
  /-- Flows are left only when it is asked for, and only behind one that failed. -/
  stop : skipped ≠ [] → failFast = true ∧ ∃ last ∈ turns.getLast?, last.outcome.fails = true
  /-- The failure behind which flows are left is the first one. -/
  first : failFast = true → ∀ turn ∈ turns.dropLast, turn.outcome.passes = true
  /-- Every flow has passed, has failed or was not started. -/
  total : countOf Outcome.passes turns + countOf Outcome.fails turns + skipped.length = flows.length
  output : result.1.output = before ++ String.join (turns.map Turn.line) ++
    summary (if Clean turns then "PASS" else "FAIL") (countOf Outcome.passes turns)
      (countOf Outcome.fails turns) skipped.length
  code : result.1.code = if Clean turns then 0 else 1

theorem tallyReport_eq (before : String) (total passed failed : ℕ) (output : String) :
    tallyReport before total ⟨passed, failed, false, output⟩ =
      ⟨if failed = 0 then 0 else 1, before ++ output ++
        summary (if failed = 0 then "PASS" else "FAIL") passed failed (total - passed - failed),
        ""⟩ := by
  unfold tallyReport summary
  simp only [Bool.false_eq_true, if_false, String.append_assoc]

theorem countOf_eq_zero_iff {ends : Outcome → Bool} {turns : List Turn} :
    countOf ends turns = 0 ↔ ∀ turn ∈ turns, ends turn.outcome = false := by
  simp [countOf, List.countP_eq_zero]

theorem countOf_passes_add_fails_add_aborts (turns : List Turn) :
    countOf Outcome.passes turns + countOf Outcome.fails turns + countOf Outcome.aborts turns =
      turns.length := by
  induction turns with
  | nil => rfl
  | cons turn rest ih =>
    have hone := turn.outcome.toNat_passes_add_fails_add_aborts
    rw [countOf_cons, countOf_cons, countOf_cons, List.length_cons]
    omega

namespace Course

variable {answer : Backends σ} {config : Config} {failFast : Bool} {s t : σ}
  {flows skipped : List (String × Workflow)} {turns : List Turn} {log : List Exchange}

theorem run_flowsReport (h : Course answer config failFast s flows turns skipped t log)
    (before : String) :
    (flowsReport before config failFast flows).run answer s =
        (tallyReport before flows.length (Tally.start.after turns), t) ∧
      (flowsReport before config failFast flows).history answer s = log := by
  have hstart : Tally.start.stops failFast = false := by cases failFast <;> rfl
  obtain ⟨hrun, hhistory⟩ := h.run_eq hstart
  rw [flowsReport, Script.run_bind, Script.history_bind, hrun, hhistory]
  exact ⟨rfl, List.append_nil _⟩

theorem code_of_aborts (haborts : (turns.any fun turn => turn.outcome.aborts) = true)
    (before : String) (total : ℕ) :
    (tallyReport before total (Tally.start.after turns)).code = abortCode := by
  rw [Tally.after_eq, haborts]
  rfl

/-- Without a flow that aborts, the flows are accounted for. -/
theorem accounted (h : Course answer config failFast s flows turns skipped t log)
    (hends : (turns.any fun turn => turn.outcome.aborts) = false) (before : String) :
    Accounted answer config failFast before s flows turns skipped
      (tallyReport before flows.length (Tally.start.after turns), t) log := by
  have hnone : ∀ turn ∈ turns, turn.outcome.aborts = false := by simpa using hends
  have hcounts := countOf_passes_add_fails_add_aborts turns
  rw [countOf_eq_zero_iff.mpr hnone, Nat.add_zero] at hcounts
  have hlength : flows.length = turns.length + skipped.length := by
    rw [h.split, List.length_append, List.length_map]
  -- Each turn has passed or failed, so that the difference is what was not started.
  have hskipped : flows.length - countOf Outcome.passes turns - countOf Outcome.fails turns =
      skipped.length := by omega
  have htally : Tally.start.after turns = ⟨countOf Outcome.passes turns,
      countOf Outcome.fails turns, false, String.join (turns.map Turn.line)⟩ := by
    rw [Tally.after_eq, hends]
    simp [Tally.start]
  have hclean : countOf Outcome.fails turns = 0 ↔ Clean turns := countOf_eq_zero_iff
  rw [htally, tallyReport_eq, hskipped, if_congr hclean rfl rfl, if_congr hclean rfl rfl]
  refine ⟨h.split, h.inTurn, fun hleft => ?_, fun hfast turn hturn => ?_, by omega, rfl, rfl⟩
  · obtain ⟨last, hlast, hhalts⟩ := h.halts_last hleft
    have hlast' := hnone last (List.mem_of_getLast? hlast)
    rw [Outcome.halts, hlast', Bool.false_or, Bool.and_eq_true] at hhalts
    exact ⟨hhalts.1, last, hlast, hhalts.2⟩
  · exact Outcome.passes_of_halts (hfast ▸ h.goes_on turn hturn)

end Course

theorem Accounted.code_ne_abortCode {answer : Backends σ} {config : Config} {failFast : Bool}
    {before : String} {s : σ} {flows skipped : List (String × Workflow)} {turns : List Turn}
    {result : Report × σ} {log : List Exchange}
    (h : Accounted answer config failFast before s flows turns skipped result log) :
    result.1.code ≠ abortCode := by
  rw [h.code]
  split <;> decide

/-! ## Runs over a directory -/

/-- The file of the configuration of a run over a directory. -/
def settingsFile (directory : String) (configFile : Option String) : String :=
  configFile.getD (Loading.join directory "runner.yaml")

/-- The configuration is that of a file, which is mentioned then, or the default one when there is
no file. -/
inductive Settled (answer : Backends σ) (file before : String) (s : σ) : String → Config → σ → Prop
  | absent (hfile : (answer (.fileKind file) s).1.isNone = true) :
    Settled answer file before s before {} (answer (.fileKind file) s).2
  | present {config : Config} {t : σ} (hfile : (answer (.fileKind file) s).1.isNone = false)
    (hload : (Config.load (some file)).run answer (answer (.fileKind file) s).2 =
      (.ok config, t)) :
    Settled answer file before s (before ++ "Using config: " ++ file ++ "\n\n") config t

/-- A directory is there, and its configuration and its flows are loaded, which leaves the backends
in a state. -/
structure Readied (answer : Backends σ) (directory : String) (configFile : Option String) (s : σ)
    (before : String) (config : Config) (flows : List (String × Workflow)) (t : σ) : Prop where
  present : (answer (.fileKind directory) s).1.isNone = false
  loaded : ∃ mid, Settled answer (settingsFile directory configFile)
      ("Running flows from: " ++ directory ++ "\n\n") (answer (.fileKind directory) s).2 before
      config mid ∧
    (Loading.loadDirectory directory).run answer mid = (.ok flows, t)

/-- Goes on with the flows of a directory, or with what is wrong with them. -/
def reportLoaded (before : String) (config : Config) (failFast : Bool) :
    Except LoadError (List (String × Workflow)) → Script Report
  | .error e => .done (.unloaded before e)
  | .ok flows => flowsReport before config failFast flows

theorem runLoaded_eq (before directory : String) (config : Config) (failFast : Bool) :
    runLoaded before directory config failFast =
      (Loading.loadDirectory directory).bind (reportLoaded before config failFast) := by
  unfold runLoaded
  congr 1

theorem Readied.run_eq {answer : Backends σ} {directory : String} {configFile : Option String}
    {s t : σ} {before : String} {config : Config} {flows : List (String × Workflow)}
    (h : Readied answer directory configFile s before config flows t) (failFast : Bool) :
    (runDirectoryFlows directory configFile failFast).run answer s =
      (flowsReport before config failFast flows).run answer t := by
  obtain ⟨hpresent, mid, hsettled, hflows⟩ := h
  have hloaded : (runLoaded before directory config failFast).run answer mid =
      (flowsReport before config failFast flows).run answer t := by
    rw [runLoaded_eq, Script.run_bind, hflows]
    rfl
  rw [← hloaded, runDirectoryFlows, Script.run]
  dsimp only
  rw [hpresent, if_neg Bool.false_ne_true, Script.run]
  dsimp only
  rw [← settingsFile]
  cases hsettled with
  | absent hfile => rw [if_pos hfile]
  | present hfile hload =>
    rw [if_neg (by simp [hfile]), Script.run_bind, hload]

/-- Flows are run in order, each by itself, and accounted for, exactly when no flow that is reached
aborts; the exit code tells the two apart. Only a step with a delay that is too long aborts a flow.
A run over a directory is one over the flows that are loaded from it. -/
theorem flows_accounted_iff (answer : Backends σ) (config : Config) (failFast : Bool)
    (before : String) (s : σ) (flows : List (String × Workflow)) :
    ((∃ turns skipped, Accounted answer config failFast before s flows turns skipped
        ((flowsReport before config failFast flows).run answer s)
        ((flowsReport before config failFast flows).history answer s)) ↔
      ¬ Aborts answer config failFast s flows) ∧
    (Aborts answer config failFast s flows ↔
      ((flowsReport before config failFast flows).run answer s).1.code = abortCode) ∧
    (∀ w t, ((ownRun config w).run answer t).1 = .aborted →
      ∃ raw ∈ w.steps, ∃ store step, Step.ofRawWith store raw = .ok step ∧
        (step.retryWait? = none ∨ step.postDelay? = none)) ∧
    ∀ directory configFile u, Readied answer directory configFile u before config flows s →
      (runDirectoryFlows directory configFile failFast).run answer u =
        (flowsReport before config failFast flows).run answer s := by
  obtain ⟨turns, skipped, t, log, hcourse⟩ := exists_course answer config failFast s flows
  obtain ⟨hrun, hhistory⟩ := hcourse.run_flowsReport before
  have haccounted : ¬ Aborts answer config failFast s flows →
      ∃ turns skipped, Accounted answer config failFast before s flows turns skipped
        ((flowsReport before config failFast flows).run answer s)
        ((flowsReport before config failFast flows).history answer s) := by
    intro hgoes
    rw [← hcourse.any_aborts_iff, Bool.not_eq_true] at hgoes
    rw [hrun, hhistory]
    exact ⟨turns, skipped, hcourse.accounted hgoes before⟩
  have hcode : Aborts answer config failFast s flows →
      ((flowsReport before config failFast flows).run answer s).1.code = abortCode := by
    intro haborts
    rw [hrun]
    exact Course.code_of_aborts (hcourse.any_aborts_iff.mpr haborts) before flows.length
  refine ⟨⟨?_, haccounted⟩, ⟨hcode, ?_⟩, ?_, fun _ _ _ hreadied => hreadied.run_eq failFast⟩
  · rintro ⟨turns, skipped, h⟩ haborts
    exact h.code_ne_abortCode (hcode haborts)
  · intro habort
    by_contra hgoes
    obtain ⟨turns, skipped, h⟩ := haccounted hgoes
    exact h.code_ne_abortCode habort
  · intro w t haborted
    rw [← runFlow_eq_ownRun, runFlow, Script.run_withSecrets] at haborted
    exact Workflow.exists_overlong_of_aborted haborted

/-- A stage with three flows, of which the second one reads a file that is missing. -/
def trioStage : Stage :=
  { Stage.empty with files := ⟨[
    (["flows"], none),
    (["flows", "a.json"], some "\x7b\"steps\":[]\x7d".toUTF8),
    (["flows", "b.json"], some
      "\x7b\"steps\":[\x7b\"action\":\"read\",\"filename\":\"missing\"\x7d]\x7d".toUTF8),
    (["flows", "c.json"], some "\x7b\"steps\":[]\x7d".toUTF8)]⟩ }

/-- The names of those flows. -/
def trioNames : List String :=
  ["a.json", "b.json", "c.json"]

theorem run_loadDirectory_trio :
    (Loading.loadDirectory "flows").run Stage.answer trioStage =
      (Loading.loadFiles (trioNames.map (Loading.join "flows"))).run Stage.answer trioStage := by
  have hlist : trioStage.files.list "flows" = .ok trioNames := by decide +kernel
  have hkinds : trioStage.files.kind? (Loading.join "flows" "a.json") = some .file ∧
      trioStage.files.kind? (Loading.join "flows" "b.json") = some .file ∧
      trioStage.files.kind? (Loading.join "flows" "c.json") = some .file := by decide +kernel
  obtain ⟨ha, hb, hc⟩ := hkinds
  have hfiles : (Loading.filesAmong "flows" trioNames).run Stage.answer trioStage =
      (trioNames, trioStage) := by
    simp [trioNames, Loading.filesAmong, Script.run, Stage.answer, ha, hb, hc]
  -- Sorting does not evaluate, so that the order is given and known by being sorted.
  have hchosen : Loading.chosen trioNames = trioNames :=
    Loading.chosen_eq (by decide +kernel) (by decide +kernel)
  simp only [Loading.loadDirectory, Script.run, Stage.answer, hlist, Script.run_bind, hfiles,
    hchosen]

theorem flows_accounted_iff_trio :
    ∃ flows s, Readied Stage.answer "flows" none trioStage "Running flows from: flows\n\n" {} flows
        s ∧
      ∃ turns skipped, Accounted Stage.answer {} true "Running flows from: flows\n\n" s flows turns
        skipped ((runDirectoryFlows "flows" none true).run Stage.answer trioStage)
        ((flowsReport "Running flows from: flows\n\n" {} true flows).history Stage.answer s) := by
  have hcode : (((Loading.loadFiles (trioNames.map (Loading.join "flows"))).bind
      (reportLoaded "Running flows from: flows\n\n" {} true)).run Stage.answer
        trioStage).1.code = 1 := by
    decide +kernel
  rw [Script.run_bind, ← run_loadDirectory_trio] at hcode
  rcases hload : (Loading.loadDirectory "flows").run Stage.answer trioStage with ⟨loaded, s⟩
  rw [hload] at hcode
  cases loaded with
  | error e => cases hcode
  | ok flows =>
    have hreadied : Readied Stage.answer "flows" none trioStage "Running flows from: flows\n\n" {}
        flows s :=
      ⟨by decide +kernel, trioStage, .absent (by decide +kernel), hload⟩
    obtain ⟨haccounted, habort, -, hrun⟩ :=
      flows_accounted_iff Stage.answer {} true "Running flows from: flows\n\n" s flows
    refine ⟨flows, s, hreadied, ?_⟩
    rw [hrun "flows" none trioStage hreadied]
    refine haccounted.mpr fun haborts => ?_
    cases hcode.symm.trans (habort.mp haborts)

/-- A flow that would fail anyway, with a delay between attempts of which there is one, and a flow
without steps. -/
def overlongFlows : List (String × Workflow) :=
  [("flows/a.json", ⟨some "first", .empty, [Step.onceRead]⟩),
    ("flows/b.json", ⟨some "second", .empty, []⟩)]

/-- An aborted flow takes the flows behind it and the report with it, although nothing asks to stop
at a failure. -/
theorem overlong_delay_unaccounted :
    ¬ ∃ turns skipped, Accounted Stage.answer {} false "" Stage.empty overlongFlows turns skipped
      ((flowsReport "" {} false overlongFlows).run Stage.answer Stage.empty)
      ((flowsReport "" {} false overlongFlows).history Stage.answer Stage.empty) := by
  have hcode : ((flowsReport "" {} false overlongFlows).run Stage.answer Stage.empty).1.code =
      abortCode := by
    decide +kernel
  rintro ⟨turns, skipped, h⟩
  exact h.code_ne_abortCode hcode

end Command

end FlowRunner
