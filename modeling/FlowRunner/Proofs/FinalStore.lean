import FlowRunner.Proofs.Extraction
import FlowRunner.Proofs.Passage

/-!
# The store of a completed run

The store in which a run completes is the resolved initial store with every executed step's values
kept in turn: `Workflow.Passes.store_eq`. So a key holds what the last executed step with that
destination read for it, and what it held at the start when there is no such step
(`Workflow.completed_leftBy`).
-/

namespace FlowRunner

variable {σ : Type}

/-! ## What a step keeps -/

/-- The keys of the store that a step writes or removes. -/
def Step.destinations (step : Step) : List String :=
  match step.valueMap with
  | some valueMap => valueMap.keys
  | none => []

/-- What a step reads of its result for a key. -/
def Step.read? (step : Step) (key : String) (result : Value) : Option Value :=
  step.valueMap.bind fun valueMap => valueMap.read? key (ValueMap.sourceOf result)

theorem Step.get?_keep (store : Store) (step : Step) (result : Value) (key : String) :
    (step.keep store result).get? key =
      if key ∈ step.destinations then step.read? key result else store.get? key := by
  unfold Step.keep Step.destinations Step.read?
  cases step.valueMap with
  | none => simp
  | some valueMap => exact store.get?_extract valueMap result key

namespace Visit

/-- The keys of the store that a visit writes or removes. -/
def destinations : Visit → List String
  | skipped => []
  | executed step _ => step.destinations

/-- The store after a visit. -/
def store : Visit → Store → Store
  | skipped, before => before
  | executed step result, before => step.keep before result

theorem get?_store_of_not_mem {visit : Visit} {key : String} (hkey : key ∉ visit.destinations)
    (before : Store) : (visit.store before).get? key = before.get? key := by
  cases visit with
  | skipped => rfl
  | executed step result => exact (step.get?_keep before result key).trans (if_neg hkey)

theorem store_of_destinations_eq_nil {visit : Visit} (h : visit.destinations = [])
    (before : Store) : visit.store before = before := by
  cases visit with
  | skipped => rfl
  | executed step result =>
    simp only [destinations, Step.destinations] at h
    simp only [store, Step.keep]
    cases hmap : step.valueMap with
    | none => rfl
    | some valueMap =>
      rw [hmap] at h
      cases valueMap with
      | fields names =>
        cases h
        rfl
      | paths entries =>
        cases List.map_eq_nil_iff.mp h
        rfl

theorem get?_foldl_of_not_mem {visits : List Visit} {key : String}
    (hkey : ∀ visit ∈ visits, key ∉ visit.destinations) (before : Store) :
    (visits.foldl (fun soFar visit => visit.store soFar) before).get? key = before.get? key := by
  induction visits generalizing before with
  | nil => rfl
  | cons visit rest ih =>
    obtain ⟨hvisit, hrest⟩ := List.forall_mem_cons.mp hkey
    rw [List.foldl_cons, ih hrest, get?_store_of_not_mem hvisit]

/-- The last visit with a destination decides what it holds. -/
theorem get?_foldl_of_last {earlier later : List Visit} {step : Step} {result : Value}
    {key : String} (hkey : key ∈ step.destinations)
    (hlater : ∀ visit ∈ later, key ∉ visit.destinations) (before : Store) :
    ((earlier ++ executed step result :: later).foldl (fun soFar visit => visit.store soFar)
      before).get? key = step.read? key result := by
  rw [List.foldl_append, List.foldl_cons, get?_foldl_of_not_mem hlater, store, step.get?_keep,
    if_pos hkey]

end Visit

/-- A store is what visits leave of an initial one. -/
structure LeftBy (initial : Store) (visits : List Visit) (final : Store) : Prop where
  /-- Only visits change the store, in turn. -/
  folded : final = visits.foldl (fun soFar visit => visit.store soFar) initial
  /-- A visit without destinations changes nothing. -/
  idle : ∀ visit ∈ visits, visit.destinations = [] → ∀ before, visit.store before = before
  /-- A key that is no destination holds what it held at the start. -/
  untouched : ∀ key, (∀ visit ∈ visits, key ∉ visit.destinations) →
    final.get? key = initial.get? key
  /-- Any other key holds what the last step with that destination read for it of its result,
  which was as expected, or nothing when the step read nothing. -/
  lastRead : ∀ key earlier step result later, visits = earlier ++ .executed step result :: later →
    key ∈ step.destinations → (∀ visit ∈ later, key ∉ visit.destinations) →
    Attempt.Accepts step result ∧ final.get? key = step.read? key result

/-! ## The store along a run -/

theorem Step.Passes.store_eq {answer : Backends σ} {config : Config} {store next : Store}
    {s t : σ} {raw : RawStep} {visit : Visit} {log : List Exchange}
    (h : Passes answer config store s raw visit next t log) : next = visit.store store := by
  cases h <;> rfl

namespace Workflow

theorem Passes.store_eq {answer : Backends σ} {config : Config} {store next : Store} {s t : σ}
    {steps : List RawStep} {visits : List Visit} {log : List Exchange}
    (h : Passes answer config store s steps visits next t log) :
    next = visits.foldl (fun soFar visit => visit.store soFar) store := by
  induction h with
  | nil => rfl
  | cons hstep hrest ih => rw [ih, hstep.store_eq, List.foldl_cons]

theorem Passes.accepts {answer : Backends σ} {config : Config} {store next : Store} {s t : σ}
    {steps : List RawStep} {visits : List Visit} {log : List Exchange}
    (h : Passes answer config store s steps visits next t log) {step : Step} {result : Value}
    (hvisit : .executed step result ∈ visits) : Attempt.Accepts step result := by
  induction h with
  | nil => cases hvisit
  | cons hstep hrest ih =>
    rcases List.mem_cons.mp hvisit with heq | hmem
    · cases heq
      cases hstep with
      | executed hdispatched hrun => exact Attempt.accepts_of_run hrun
    · exact ih hmem

theorem Passes.leftBy {answer : Backends σ} {config : Config} {store next : Store} {s t : σ}
    {steps : List RawStep} {visits : List Visit} {log : List Exchange}
    (h : Passes answer config store s steps visits next t log) : LeftBy store visits next where
  folded := h.store_eq
  idle := fun _ _ hnone before => Visit.store_of_destinations_eq_nil hnone before
  untouched := by
    intro key hkey
    rw [h.store_eq]
    exact Visit.get?_foldl_of_not_mem hkey store
  lastRead := by
    rintro key earlier step result later rfl hkey hlater
    refine ⟨h.accepts (by simp), ?_⟩
    rw [h.store_eq]
    exact Visit.get?_foldl_of_last hkey hlater store

/-- A run that completes passes every step, and its store is what the visits leave of the resolved
initial store. -/
theorem completed_leftBy {answer : Backends σ} {config : Config} {w : Workflow}
    {overrides : Option Store} {s : σ} {final : Store}
    (hcompleted : ((w.run config overrides).run answer s).1 = .completed final) :
    ∃ initial visits t log, (Store.seeded w.params overrides).resolved = .ok initial ∧
      Passes answer config initial s w.steps visits final t log ∧
      LeftBy initial visits final := by
  rcases run_cases answer config w overrides s with
    ⟨e, -, hrun, -⟩ | ⟨initial, visits, next, t, log, hinitial, hpasses, hrun, -⟩ |
      ⟨initial, outcome, t, log, -, hends, hrun, -⟩
  · rw [hrun] at hcompleted
    cases hcompleted
  · rw [hrun] at hcompleted
    cases hcompleted
    exact ⟨initial, visits, t, log, hinitial, hpasses, hpasses.leftBy⟩
  · have hstore := hends.store?_eq_none
    rw [hrun] at hcompleted
    cases hcompleted
    cases hstore

/-- A workflow that reads the file that a parameter names, keeps its first line, removes the
parameter, and skips a step that could not be run. -/
def firstLine : Workflow where
  name := none
  params := .ofPairs [("path", .text "in")]
  steps := [
    [("action", .text "read"), ("filename", .text "<<path>>"),
      ("value_map", .object [("line", .bool true), ("path", .text "a/b")])],
    [("action", .text "<<line>>"), ("skip_step", .text "TRUE")]]

/-- A stage with one file. -/
def oneFile : Stage :=
  { Stage.empty with files := ⟨[(["in"], some "first\nsecond".toUTF8)]⟩ }

theorem firstLine_leftBy :
    ∃ final, ((firstLine.run {} none).run Stage.answer oneFile).1 = .completed final ∧
      ∃ initial visits t log, (Store.seeded firstLine.params none).resolved = .ok initial ∧
        Passes Stage.answer {} initial oneFile firstLine.steps visits final t log ∧
        LeftBy initial visits final := by
  have hstore : ((firstLine.run {} none).run Stage.answer oneFile).1.store?.isSome = true := by
    decide +kernel
  obtain ⟨final, hcompleted⟩ := Outcome.exists_completed hstore
  exact ⟨final, hcompleted, completed_leftBy hcompleted⟩

end Workflow

end FlowRunner
