import FlowRunner.Proofs.ControlFields
import FlowRunner.Proofs.FailureOrigin
import FlowRunner.Proofs.InitialStores

/-!
# Labels of steps

Messages name a step by its label, which is made of three members. It is read off the step as
written as long as there is no resolved one, and off the resolved one afterwards. Both readings give
the same label for one step (`Step.rawLabel_of_ofRaw`), and resolving changes no label that refers
to nothing (`Step.LabelSettled.label_of_ofRawWith`). So a failure of a step with such a label
carries it, whenever it comes up (`Step.labels_agree`).
-/

namespace FlowRunner

/-- The failure with which a step ends a run. -/
def Progress.failure? : Progress → Option Failure
  | .next _ => none
  | .ended outcome => outcome.failure?

theorem Progress.exists_failed {progress : Progress} (h : progress.failure?.isSome = true) :
    ∃ failure, progress = .ended (.failed failure) := by
  cases progress with
  | next store => cases h
  | ended outcome =>
    obtain ⟨failure, rfl⟩ := Outcome.exists_failed h
    exact ⟨failure, rfl⟩

namespace Step

/-- A null ordinal is as good as none. -/
theorem labelOf_null (name : Option String) (index : Nat) :
    labelOf (some .null) name index = labelOf none name index := rfl

/-- A name that can be read is the one that a text has; null is none. -/
theorem asText?_of_readName {v : Value} {name : Option String} (h : readName v = .ok name) :
    v.asText? = name := by
  cases v with
  | null =>
    cases h
    rfl
  | text s =>
    cases h
    rfl
  | _ => cases h

variable {members raw : RawStep} {step : Step}

/-- A field that is read as a name is what the raw lookup finds. -/
theorem Control.asText?_get? {c : Control (Option String)} (hread : c.read = readName)
    (hdefault : c.value {} = none) (hkeys : Members.Distinct members)
    (h : withMembers {} members = .ok step) :
    (Members.get? c.key members).bind Value.asText? = c.value step := by
  cases hget : Members.get? c.key members with
  | none =>
    rw [c.value_of_not_mem h (Members.get?_eq_none_iff.mp hget), hdefault]
    rfl
  | some v =>
    have hname := c.read_of_get? hkeys h hget
    rw [hread] at hname
    exact asText?_of_readName hname

theorem labelOf_ordinal (hkeys : Members.Distinct members)
    (h : withMembers {} members = .ok step) (name : Option String) (index : Nat) :
    labelOf (Members.get? "step" members) name index = labelOf step.ordinal name index := by
  cases hget : Members.get? "step" members with
  | none =>
    have hnone : step.ordinal = none :=
      Control.ordinal.value_of_not_mem h (Members.get?_eq_none_iff.mp hget)
    rw [hnone]
  | some v =>
    have hordinal : (if v.isNull then none else some v) = step.ordinal :=
      Except.ok.inj (Control.ordinal.read_of_get? hkeys h hget)
    rw [← hordinal]
    cases v with
    | null => exact labelOf_null name index
    | _ => rfl

/-- A step that can be read has the label that the members have. -/
theorem rawLabel_of_ofRaw (hkeys : Members.Distinct raw) (h : ofRaw raw = .ok step) (index : Nat) :
    rawLabel raw index = step.label index := by
  obtain ⟨hset, -⟩ := of_ofRaw h
  have hname : (Members.get? "step name" raw).bind Value.asText? = step.name :=
    Control.name.asText?_get? rfl rfl hkeys hset
  have hflow : (Members.get? "flow name" raw).bind Value.asText? = step.flowName :=
    Control.flowName.asText?_get? rfl rfl hkeys hset
  unfold rawLabel label
  simp only [hname, hflow]
  exact labelOf_ordinal hkeys hset _ index

/-! ## Labels that refer to nothing -/

/-- The members that a label is made of. -/
def labelNames : List String := ["step", "step name", "flow name"]

/-- No placeholder and no increment stands in the members that the label is made of. -/
def LabelSettled (raw : RawStep) : Prop :=
  ∀ key ∈ labelNames, ∀ v ∈ Members.get? key raw, v.references = []

instance (raw : RawStep) : Decidable (LabelSettled raw) := by
  unfold LabelSettled
  infer_instance

theorem rawLabel_congr (h : ∀ key ∈ labelNames, Members.get? key members = Members.get? key raw)
    (index : Nat) : rawLabel members index = rawLabel raw index := by
  unfold rawLabel
  simp only [h "step" (by decide), h "step name" (by decide), h "flow name" (by decide)]

namespace LabelSettled

variable {store : Store}

theorem rawLabel_of_resolveMembers (hsettled : LabelSettled raw)
    (h : Placeholder.resolveMembers store raw = .ok members) (index : Nat) :
    rawLabel members index = rawLabel raw index := by
  refine rawLabel_congr (fun key hkey => ?_) index
  rcases Placeholder.get?_resolveMembers_cases h key with
    ⟨hraw, hmembers⟩ | ⟨v, w, hv, hw, hresolve⟩
  · rw [hraw, hmembers]
  · have htexts := Placeholder.references_eq_nil_iff.mp (hsettled key hkey v hv)
    cases hresolve.symm.trans (Placeholder.resolve_of_settled htexts store)
    rw [hv, hw]

/-- A resolved step has the label of the step as written. -/
theorem label_of_ofRawWith (hsettled : LabelSettled raw) (hkeys : Members.Distinct raw)
    (h : ofRawWith store raw = .ok step) (index : Nat) :
    step.label index = rawLabel raw index := by
  obtain ⟨members, hmembers, hread⟩ := exists_members_of_ofRawWith h
  have hdistinct := Placeholder.distinct_of_resolveMembers hkeys hmembers
  rw [← rawLabel_of_ofRaw hdistinct hread, hsettled.rawLabel_of_resolveMembers hmembers]

variable {σ : Type} {answer : Backends σ} {config : Config} {index : Nat} {s t : σ}
  {failure : Failure} {log : List Exchange}

theorem label_of_fails (hsettled : LabelSettled raw) (hkeys : Members.Distinct raw)
    {label : String} (h : Fails answer config index store s raw label failure t log) :
    label = rawLabel raw index := by
  cases h with
  | skipping hskip => rfl
  | resolving hstays hresolves => rfl
  | routing hstays hresolves hroutes => exact hsettled.label_of_ofRawWith hkeys hresolves index
  | dispatch hstep hrun => exact hsettled.label_of_ofRawWith hkeys hstep.resolves index

theorem failure_of_runRaw (hsettled : LabelSettled raw) (hkeys : Members.Distinct raw)
    (h : ((runRaw config index store raw).run answer s).1 = .ended (.failed failure)) :
    ∃ cause, failure = .step (rawLabel raw index) cause ∧ cause.labelled = false := by
  rcases passes_or_ends answer config index store s raw with
    ⟨visit, next, t, log, hpasses⟩ | ⟨outcome, t, log, hends⟩
  · rw [(hpasses.run_eq index).1] at h
    cases h
  · rw [hends.run_eq.1] at h
    cases h
    cases hends with
    | failed hfails => exact ⟨_, by rw [hsettled.label_of_fails hkeys hfails], hfails.unlabelled⟩

end LabelSettled

/-- The label of a step as written is that of the step it reads as. Where the members of the label
refer to nothing, the step that they resolve to has this label too, and so has every failure of the
step, be it over the test for skipping, the placeholders, the route, or an attempt. -/
theorem labels_agree {raw : RawStep} (hkeys : Members.Distinct raw) (index : Nat) :
    (∀ step, ofRaw raw = .ok step → rawLabel raw index = step.label index) ∧
      (LabelSettled raw → ∀ store : Store,
        (∀ step, ofRawWith store raw = .ok step → step.label index = rawLabel raw index) ∧
        ∀ (σ : Type) (answer : Backends σ) (config : Config) (s : σ) (failure : Failure),
          ((runRaw config index store raw).run answer s).1 = .ended (.failed failure) →
            ∃ cause, failure = .step (rawLabel raw index) cause ∧ cause.labelled = false) :=
  ⟨fun _ h => rawLabel_of_ofRaw hkeys h index, fun hsettled _ =>
    ⟨fun _ h => hsettled.label_of_ofRawWith hkeys h index,
      fun _ _ _ _ _ h => hsettled.failure_of_runRaw hkeys h⟩⟩

/-- A step without an ordinal of its own and with an empty name, which keeps the name of the nested
flow out of the label; the brackets in that one open no placeholder. -/
def errand : RawStep :=
  [("step", .null), ("flow name", .text "cost << 5"), ("step name", .text ""),
    ("action", .text "<<verb>>")]

/-- Parameters under which the step resolves to one without a route. -/
def errandStore : Store :=
  .ofPairs [("verb", .text "ftp")]

theorem labels_agree_errand :
    Members.Distinct errand ∧ LabelSettled errand ∧
      (∃ step, ofRaw errand = .ok step ∧ rawLabel errand 4 = step.label 4) ∧
      (∃ step, ofRawWith errandStore errand = .ok step ∧ step.label 4 = rawLabel errand 4) ∧
      -- The first store has no verb, so the step does not resolve; with the second one it has no
      -- route.
      ∀ store ∈ [Store.empty, errandStore], ∃ failure cause,
        ((runRaw {} 4 store errand).run Stage.answer Stage.empty).1 = .ended (.failed failure) ∧
          failure = .step (rawLabel errand 4) cause ∧ cause.labelled = false := by
  have hkeys : Members.Distinct errand := by decide
  have hsettled : LabelSettled errand := by decide +kernel
  obtain ⟨htyped, hlabels⟩ := labels_agree hkeys 4
  have hread : (ofRaw errand).isOk = true := by decide +kernel
  have hresolved : (ofRawWith errandStore errand).isOk = true := by decide +kernel
  obtain ⟨typed, hok⟩ := Except.exists_eq_ok_of_isOk hread
  obtain ⟨step, hstep⟩ := Except.exists_eq_ok_of_isOk hresolved
  refine ⟨hkeys, hsettled, ⟨typed, hok, htyped typed hok⟩,
    ⟨step, hstep, (hlabels hsettled errandStore).1 step hstep⟩, fun store hstore => ?_⟩
  have hfails : ∀ store ∈ [Store.empty, errandStore],
      ((runRaw {} 4 store errand).run Stage.answer Stage.empty).1.failure?.isSome = true := by
    decide +kernel
  obtain ⟨failure, hfailed⟩ := Progress.exists_failed (hfails store hstore)
  obtain ⟨cause, hcause, hunlabelled⟩ := (hlabels hsettled store).2 _ _ _ _ failure hfailed
  exact ⟨failure, cause, hfailed, hcause, hunlabelled⟩

example : rawLabel errand 4 = "step 5" := by rfl

end Step

end FlowRunner
