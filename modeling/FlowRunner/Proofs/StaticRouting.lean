import FlowRunner.Proofs.ControlFields
import FlowRunner.Proofs.FailureOrigin
import FlowRunner.Proofs.PlainTexts
import FlowRunner.Proofs.Sequence

/-!
# Routing before a run

`Workflow.unroutable` looks at steps as they are written, a run at steps whose placeholders are
resolved. The two agree on every step whose action and family hold no placeholder
(`Step.ofRawWith_routing`): what a text without one stands for is a text only if it is that text
itself. So a reported step that is reached and read fails as reported, and where nothing is reported
and no placeholder is left, no run fails over routing (`Workflow.unroutable_spec`).

No member of a step comes twice; workflows that are read from text are so
(`Workflow.keysDistinct_of_ofJson`, `Workflow.keysDistinct_of_ofYaml?`).
-/

namespace FlowRunner

variable {σ : Type}

namespace RawStep

/-- The text under a key of a step as written. -/
def textAt? (raw : RawStep) (key : String) : Option String :=
  (Members.get? key raw).bind Value.asText?

/-- Whether a step as written says where it is routed: no placeholder opens in its action or its
family. -/
def RoutedAsWritten (raw : RawStep) : Prop :=
  ∀ key ∈ ["action", "type"], ∀ s ∈ textAt? raw key, ¬ ['<', '<'] <:+: s.toList

instance (raw : RawStep) : Decidable raw.RoutedAsWritten :=
  inferInstanceAs (Decidable (∀ key ∈ ["action", "type"], ∀ s ∈ textAt? raw key,
    ¬ ['<', '<'] <:+: s.toList))

/-- The route of a step as written. -/
def route (raw : RawStep) : Except RoutingError Route :=
  Route.find ((textAt? raw "action").getD "") (textAt? raw "type")

end RawStep

/-! ## Steps as written and resolved steps -/

namespace Placeholder

/-- A text or null stands only for itself, unless a placeholder opens in it. -/
theorem eq_of_resolve {store : Store} {v w : Value}
    (hplain : ∀ s ∈ v.asText?, ¬ ['<', '<'] <:+: s.toList) (h : resolve store v = .ok w)
    (hw : w = .null ∨ ∃ s, w = .text s) : v = w := by
  cases v with
  | text s =>
    rw [resolve] at h
    rcases resolveText_of_unopened (hplain s rfl) h with rfl | ⟨n, rfl⟩
    · rfl
    · rcases hw with hw | ⟨t, hw⟩ <;> cases hw
  | list items =>
    rw [resolve] at h
    obtain ⟨results, -, rfl⟩ := Except.map_eq_ok_iff.mp h
    rcases hw with hw | ⟨t, hw⟩ <;> cases hw
  | object members =>
    rw [resolve] at h
    obtain ⟨results, -, rfl⟩ := Except.map_eq_ok_iff.mp h
    rcases hw with hw | ⟨t, hw⟩ <;> cases hw
  | null =>
    rw [resolve] at h
    exact Except.ok.inj h
  | bool b =>
    rw [resolve] at h
    exact Except.ok.inj h
  | number n =>
    rw [resolve] at h
    exact Except.ok.inj h

end Placeholder

namespace Step

theorem readName_eq_ok {v : Value} {name : Option String} (h : readName v = .ok name) :
    (v = .null ∨ ∃ s, v = .text s) ∧ v.asText? = name := by
  unfold readName at h
  split at h
  · cases h
    exact ⟨.inl rfl, rfl⟩
  · cases h
    exact ⟨.inr ⟨_, rfl⟩, rfl⟩
  · cases h

theorem readAction_eq_ok {v : Value} {action : String} (h : readAction v = .ok action) :
    v = .text action := by
  unfold readAction at h
  split at h
  · cases h
    rfl
  · cases h

/-- What is written under a key, when it resolves to a text or null and no placeholder opens there. -/
theorem textAt?_of_resolved {store : Store} {raw : RawStep} {key : String} {v w : Value}
    (hget : Members.get? key raw = some v) (hresolve : Placeholder.resolve store v = .ok w)
    (hplain : ∀ s ∈ raw.textAt? key, ¬ ['<', '<'] <:+: s.toList)
    (hw : w = .null ∨ ∃ s, w = .text s) : raw.textAt? key = w.asText? := by
  have htext : raw.textAt? key = v.asText? := by
    rw [RawStep.textAt?, hget]
    rfl
  rw [htext] at hplain ⊢
  rw [Placeholder.eq_of_resolve hplain hresolve hw]

theorem get?_action_of_ofRawWith {store : Store} {raw : RawStep} {step : Step}
    (h : ofRawWith store raw = .ok step) : Members.get? "action" raw ≠ none := by
  obtain ⟨members, hmembers, hread⟩ := exists_members_of_ofRawWith h
  obtain ⟨-, hhas⟩ := of_ofRaw hread
  rcases Placeholder.get?_resolveMembers_cases hmembers "action" with
    ⟨-, hnone⟩ | ⟨v, w, hv, -, -⟩
  · rw [Members.has, hnone] at hhas
    cases hhas
  · rw [hv]
    exact Option.some_ne_none v

/-- A step that is routed as written has the route that is written. -/
theorem ofRawWith_routing {store : Store} {raw : RawStep} {step : Step}
    (hkeys : Members.Distinct raw) (hplain : raw.RoutedAsWritten)
    (h : ofRawWith store raw = .ok step) : raw.route = Route.ofStep step := by
  have haction : raw.textAt? "action" = some step.action := by
    rcases Control.action.of_ofRawWith hkeys h with ⟨hnone, -⟩ | ⟨v, w, hget, hresolve, hread⟩
    · exact absurd hnone (get?_action_of_ofRawWith h)
    · have hw : w = .text step.action := readAction_eq_ok hread
      have hwritten : raw.textAt? "action" = w.asText? :=
        textAt?_of_resolved hget hresolve (hplain "action" (by simp)) (.inr ⟨_, hw⟩)
      rw [hwritten, hw]
      rfl
  -- Unlike the action, the family may be missing, and then it has its default.
  have hfamily : raw.textAt? "type" = step.family := by
    rcases Control.family.of_ofRawWith hkeys h with ⟨hnone, hdefault⟩ | ⟨v, w, hget, hresolve, hread⟩
    · have hraw : Members.get? "type" raw = none := hnone
      rw [RawStep.textAt?, hraw]
      exact hdefault.symm
    · obtain ⟨hkind, htext⟩ := readName_eq_ok hread
      exact (textAt?_of_resolved hget hresolve (hplain "type" (by simp)) hkind).trans htext
  rw [RawStep.route, haction, hfamily]
  rfl

end Step

/-! ## The steps that are reported -/

namespace Workflow

theorem hasPlaceholder_iff {s : String} : hasPlaceholder s = true ↔ ['<', '<'] <:+: s.toList :=
  Text.occursIn_iff

theorem routingError?_eq_some_iff {raw : RawStep} {e : RoutingError} :
    routingError? raw = some e ↔ raw.RoutedAsWritten ∧ raw.route = .error e := by
  have hplain : (hasPlaceholder ((raw.textAt? "action").getD "") ||
      ((raw.textAt? "type").map hasPlaceholder).getD false) = true ↔ ¬ raw.RoutedAsWritten := by
    have hwritten : raw.RoutedAsWritten ↔
        (∀ s ∈ raw.textAt? "action", ¬ ['<', '<'] <:+: s.toList) ∧
          ∀ s ∈ raw.textAt? "type", ¬ ['<', '<'] <:+: s.toList := by
      simp [RawStep.RoutedAsWritten]
    rw [hwritten]
    cases raw.textAt? "action" <;> cases raw.textAt? "type" <;>
      simp [hasPlaceholder_iff, or_iff_not_imp_left]
  unfold routingError?
  dsimp only
  split
  · rename_i hopen
    have hwaits := hplain.mp hopen
    simp [hwaits]
  · rename_i hclosed
    have hwritten : raw.RoutedAsWritten := not_not.mp (mt hplain.mpr hclosed)
    rw [← RawStep.textAt?, ← RawStep.textAt?, ← RawStep.route]
    cases raw.route <;> simp [hwritten]

theorem unroutableFrom_eq (index : Nat) (steps : List RawStep) :
    unroutableFrom index steps =
      (steps.zipIdx index).filterMap fun entry =>
        (routingError? entry.1).map fun e => (entry.2, e) := by
  induction steps generalizing index with
  | nil => rfl
  | cons raw rest ih =>
    rw [unroutableFrom, List.zipIdx_cons, List.filterMap_cons, ← ih]
    cases routingError? raw <;> rfl

theorem mem_unroutable_iff {w : Workflow} {index : Nat} {e : RoutingError} :
    (index, e) ∈ w.unroutable ↔
      ∃ raw, w.steps[index]? = some raw ∧ routingError? raw = some e := by
  rw [unroutable, unroutableFrom_eq, List.mem_filterMap]
  simp [List.mem_zipIdx_iff_getElem?]

theorem routingError?_of_unroutable {w : Workflow} (h : w.unroutable = []) {raw : RawStep}
    (hraw : raw ∈ w.steps) : routingError? raw = none := by
  obtain ⟨index, hindex⟩ := List.getElem?_of_mem hraw
  refine Option.eq_none_iff_forall_ne_some.mpr fun e he => ?_
  have hreported := mem_unroutable_iff.mpr ⟨raw, hindex, he⟩
  rw [h] at hreported
  cases hreported

theorem pairwise_unroutable (w : Workflow) : (w.unroutable.map Prod.fst).Pairwise (· < ·) := by
  have hpositions : w.steps.zipIdx.Pairwise fun entry later => entry.2 < later.2 := by
    rw [← List.pairwise_map (f := Prod.snd), List.zipIdx_map_snd]
    exact List.pairwise_lt_range'
  rw [unroutable, unroutableFrom_eq, List.pairwise_map, List.pairwise_filterMap]
  refine hpositions.imp fun hlt entry hentry later hlater => ?_
  obtain ⟨e, -, rfl⟩ := Option.map_eq_some_iff.mp hentry
  obtain ⟨e', -, rfl⟩ := Option.map_eq_some_iff.mp hlater
  exact hlt

end Workflow

/-! ## Failures over routing -/

theorem Route.mem_owned_of_find {action : String} {family : Option String} {route : Route}
    (h : find action family = .ok route) : route.action ∈ route.family.owned := by
  have hchecked : ∀ (owner : Family) (verb : String),
      (if owner.owned.contains verb then .ok ⟨owner, verb⟩
        else .error (RoutingError.unsupported owner verb)) = Except.ok route →
      route.action ∈ route.family.owned := by
    intro owner verb h
    split at h
    · rename_i howned
      cases h
      exact List.contains_iff_mem.mp howned
    · cases h
  -- The family is named or looked up; both may fail, and then there is no route.
  unfold find at h
  dsimp only at h
  split at h
  all_goals
    split at h
    · exact hchecked _ _ h
    · cases h

/-- A family does not fail over the routing of an action that it owns. -/
theorem Failure.OfOperation.root_ne_routing {family : Family} {action : String}
    {failure : Failure} (h : failure.OfOperation family action) (howned : action ∈ family.owned)
    (e : RoutingError) : failure.root ≠ .routing e := by
  cases failure with
  | routing cause => exact absurd howned h.2
  | step label cause => exact h.elim
  | _ => simp [root]

/-- A step that is routed as written and not reported does not fail over routing. -/
theorem Step.Fails.root_ne_routing {answer : Backends σ} {config : Config} {index : Nat}
    {store : Store} {s t : σ} {raw : RawStep} {label : String} {cause : Failure}
    {log : List Exchange} (h : Fails answer config index store s raw label cause t log)
    (hkeys : Members.Distinct raw) (hplain : raw.RoutedAsWritten)
    (hrouted : Workflow.routingError? raw = none) (e : RoutingError) :
    cause.root ≠ .routing e := by
  cases h with
  | skipping hskip => simp [Failure.root]
  | resolving hstays hresolves => simp [Failure.root]
  | routing hstays hresolves hroutes =>
    have hroute := (ofRawWith_routing hkeys hplain hresolves).trans hroutes
    cases hrouted.symm.trans (Workflow.routingError?_eq_some_iff.mpr ⟨hplain, hroute⟩)
  | dispatch hstep hrun =>
    rcases Attempt.failure_of_run hrun with hoperation | ⟨m, rfl⟩
    · exact hoperation.root_ne_routing (Route.mem_owned_of_find hstep.routes) e
    · simp [Failure.root]

namespace Workflow

/-- A run gets to the step at a position, with a store and a state of the backends. -/
def Reaches (answer : Backends σ) (config : Config) (w : Workflow) (overrides : Option Store)
    (s : σ) (index : Nat) (store : Store) (t : σ) : Prop :=
  ((w.withSteps (w.steps.take index)).run config overrides).run answer s = (.completed store, t)

section

variable {answer : Backends σ} {config : Config} {w : Workflow} {overrides : Option Store}
  {s t : σ}

/-- A run over steps that fails does so at one of them, with the label of that one. -/
theorem Ends.exists_fails {index : Nat} {store : Store} {steps : List RawStep} {failure : Failure}
    {log : List Exchange} (h : Ends answer config index store s steps (.failed failure) t log) :
    ∃ raw ∈ steps, ∃ position mid u label cause later,
      Step.Fails answer config position mid u raw label cause t later ∧
        failure = .step label cause := by
  generalize houtcome : Outcome.failed failure = outcome at h
  obtain ⟨hbefore, hat⟩ := h
  cases hat with
  | failed hfails =>
    cases houtcome
    exact ⟨_, by simp, _, _, _, _, _, _, hfails, rfl⟩
  | returned hstep hrun hreturns => cases houtcome
  | overlongWait hstays hresolves hroutes hwait => cases houtcome
  | overlongDelay hstep hrun hstays hdelay => cases houtcome

/-- A run fails over routing only at a step that is reported or waits for a placeholder. -/
theorem root_ne_routing_of_run (hkeys : ∀ raw ∈ w.steps, Members.Distinct raw)
    (hplain : ∀ raw ∈ w.steps, raw.RoutedAsWritten) (hnone : w.unroutable = [])
    {failure : Failure} (hfailed : ((w.run config overrides).run answer s).1 = .failed failure)
    (e : RoutingError) : failure.root ≠ .routing e := by
  rcases run_cases answer config w overrides s with
    ⟨cause, -, hrun, -⟩ | ⟨initial, visits, final, u, log, -, -, hrun, -⟩ |
      ⟨initial, outcome, u, log, -, hends, hrun, -⟩
  · rw [hrun] at hfailed
    cases hfailed
    simp [Failure.root]
  · rw [hrun] at hfailed
    cases hfailed
  · rw [hrun] at hfailed
    cases hfailed
    obtain ⟨raw, hraw, position, mid, v, label, cause, later, hfails, rfl⟩ := hends.exists_fails
    exact hfails.root_ne_routing (hkeys raw hraw) (hplain raw hraw)
      (routingError?_of_unroutable hnone hraw) e

/-- A run that reaches a step which is read but has no route fails there, and nothing more has been
asked for. -/
theorem run_of_unrouted {index : Nat} {raw : RawStep} {store : Store} {step : Step}
    {e : RoutingError} (hraw : w.steps[index]? = some raw)
    (hreaches : Reaches answer config w overrides s index store t)
    (hstays : Step.skipRequested store raw = .ok false)
    (hresolves : Step.ofRawWith store raw = .ok step) (hroutes : Route.ofStep step = .error e) :
    (w.run config overrides).run answer s = (.failed (.step (step.label index) (.routing e)), t) ∧
      (w.run config overrides).history answer s =
        ((w.withSteps (w.steps.take index)).run config overrides).history answer s := by
  obtain ⟨hindex, rfl⟩ := List.getElem?_eq_some_iff.mp hraw
  have hsteps : w.steps.take index ++ w.steps[index] :: w.steps.drop (index + 1) = w.steps := by
    rw [← List.drop_eq_getElem_cons hindex, List.take_append_drop]
  have hlength : (w.steps.take index).length = index := List.length_take_of_le hindex.le
  obtain ⟨hrun, hhistory⟩ := run_append_of_completed answer config w _
    (w.steps[index] :: w.steps.drop (index + 1)) overrides s hreaches
  rw [hsteps, hlength] at hrun hhistory
  have hends : Ends answer config index store t ([] ++ w.steps[index] :: w.steps.drop (index + 1))
      (.failed (.step (step.label index) (.routing e))) t ([] ++ []) :=
    .at .nil (.failed (.routing hstays hresolves hroutes))
  obtain ⟨hrest, hnothing⟩ := hends.run_eq
  exact ⟨hrun.trans hrest, (hhistory.trans (congrArg _ hnothing)).trans (List.append_nil _)⟩

end

/-- Where no step of a workflow is reported and none waits for a placeholder, no run fails over
routing. A reported step fails as reported in every run that reaches it, does not skip it and can
read it, before it asks for anything. Steps are reported in order and once. -/
theorem unroutable_spec {w : Workflow} (hkeys : ∀ raw ∈ w.steps, Members.Distinct raw) :
    (w.unroutable = [] → (∀ raw ∈ w.steps, raw.RoutedAsWritten) →
      ∀ (σ : Type) (answer : Backends σ) (config : Config) (overrides : Option Store) (s : σ)
        (failure : Failure) (e : RoutingError),
        ((w.run config overrides).run answer s).1 = .failed failure →
          failure.root ≠ .routing e) ∧
    (∀ index e, (index, e) ∈ w.unroutable → ∃ raw, w.steps[index]? = some raw ∧
      ∀ (σ : Type) (answer : Backends σ) (config : Config) (overrides : Option Store) (s : σ)
        (store : Store) (t : σ) (step : Step),
        Reaches answer config w overrides s index store t →
        Step.skipRequested store raw = .ok false → Step.ofRawWith store raw = .ok step →
        (w.run config overrides).run answer s =
            (.failed (.step (step.label index) (.routing e)), t) ∧
          (w.run config overrides).history answer s =
            ((w.withSteps (w.steps.take index)).run config overrides).history answer s) ∧
    (w.unroutable.map Prod.fst).Pairwise (· < ·) := by
  refine ⟨?_, ?_, pairwise_unroutable w⟩
  · intro hnone hplain σ answer config overrides s failure e hfailed
    exact root_ne_routing_of_run hkeys hplain hnone hfailed e
  · intro index e hreported
    obtain ⟨raw, hraw, he⟩ := mem_unroutable_iff.mp hreported
    obtain ⟨hplain, hroute⟩ := routingError?_eq_some_iff.mp he
    refine ⟨raw, hraw, ?_⟩
    intro σ answer config overrides s store t step hreaches hstays hresolves
    have hkeysHere := hkeys raw (List.mem_of_getElem? hraw)
    have hroutes := (Step.ofRawWith_routing hkeysHere hplain hresolves).symm.trans hroute
    exact run_of_unrouted hraw hreaches hstays hresolves hroutes

/-- A workflow whose first step is skipped unless it is overridden; no family owns the action of the
second one. -/
def misrouted : Workflow where
  name := none
  params := .ofPairs [("quiet", .bool true), ("who", .text "bob")]
  steps := [
    [("action", .text "read"), ("filename", .text "missing"), ("skip_step", .text "<<quiet>>")],
    [("action", .text "Explode"), ("type", .null), ("step name", .text "<<who>>")]]

theorem unroutable_spec_misrouted :
    (∀ raw ∈ misrouted.steps, Members.Distinct raw) ∧
      ((misrouted.run {} none).run Stage.answer Stage.empty).1 =
        .failed (.step "step 2 bob" (.routing (.unknownAction "explode"))) ∧
      ∃ failure,
        (((misrouted.withSteps (misrouted.steps.take 1)).run {}
          (some (.ofPairs [("quiet", .bool false)]))).run Stage.answer Stage.empty).1 =
            .failed failure ∧
        ∀ e, failure.root ≠ .routing e := by
  have hkeys : ∀ raw ∈ misrouted.steps, Members.Distinct raw := by decide
  refine ⟨hkeys, ?_, ?_⟩
  · have hreported : (1, .unknownAction "explode") ∈ misrouted.unroutable := by decide +kernel
    have hread : ((((misrouted.withSteps (misrouted.steps.take 1)).run {} none).run Stage.answer
        Stage.empty).1.store?.bind fun store =>
          (Step.ofRawWith store misrouted.steps[1]).toOption.map (Step.label · 1)) =
        some "step 2 bob" := by decide +kernel
    obtain ⟨store, hstore, hread⟩ := Option.bind_eq_some_iff.mp hread
    obtain ⟨step, hstep, hlabel⟩ := Option.map_eq_some_iff.mp hread
    obtain ⟨raw, hraw, hruns⟩ := (unroutable_spec hkeys).2.1 1 _ hreported
    obtain rfl := Option.some.inj hraw
    have hreaches : Reaches Stage.answer {} misrouted none Stage.empty 1 store
        (((misrouted.withSteps (misrouted.steps.take 1)).run {} none).run Stage.answer
          Stage.empty).2 :=
      Prod.ext (Outcome.eq_completed_of_store? hstore) rfl
    have hresolves : Step.ofRawWith store misrouted.steps[1] = .ok step := by
      cases hread : Step.ofRawWith store misrouted.steps[1] with
      | error e =>
        rw [hread] at hstep
        cases hstep
      | ok read =>
        rw [hread] at hstep
        exact congrArg Except.ok (Option.some.inj hstep)
    have hrun := (hruns Stage Stage.answer {} none Stage.empty store _ step hreaches rfl
      hresolves).1
    rw [hrun, hlabel]
  · have hkeysFirst : ∀ raw ∈ (misrouted.withSteps (misrouted.steps.take 1)).steps,
        Members.Distinct raw := by decide
    have hnone : (misrouted.withSteps (misrouted.steps.take 1)).unroutable = [] := by
      decide +kernel
    have hplain : ∀ raw ∈ (misrouted.withSteps (misrouted.steps.take 1)).steps,
        raw.RoutedAsWritten := by decide
    have hfails : (((misrouted.withSteps (misrouted.steps.take 1)).run {}
        (some (.ofPairs [("quiet", .bool false)]))).run Stage.answer Stage.empty).1.failure?.isSome =
          true := by decide +kernel
    obtain ⟨failure, hfailed⟩ := Outcome.exists_failed hfails
    exact ⟨failure, hfailed, fun e =>
      (unroutable_spec hkeysFirst).1 hnone hplain Stage Stage.answer {} _ Stage.empty failure e
        hfailed⟩

end Workflow

end FlowRunner
